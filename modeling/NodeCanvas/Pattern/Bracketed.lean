import NodeCanvas.Pattern.Escape

namespace NodeCanvas.Pattern

inductive SetOp where
  | inter
  | diff
  | symmDiff

def SetOp.apply : SetOp → CharSet → CharSet → CharSet
  | .inter => CharSet.inter
  | .diff => CharSet.diff
  | .symmDiff => CharSet.symmDiff

/-- The items in a row of a set that is still open: their members, how many items there are, and
the depth of the deepest one. -/
structure ItemRow where
  members : CharSet := .empty
  count : Nat := 0
  deepest : Nat := 0

namespace ItemRow

def push (row : ItemRow) (members : CharSet) (depth : Nat) : ItemRow :=
  ⟨row.members.union members, row.count + 1, max row.deepest depth⟩

def depth (row : ItemRow) : Nat := if row.count < 2 then row.deepest else row.deepest + 1

end ItemRow

/-- An open set with the row around it, or an operation with its first operand and the depth of
that. -/
inductive SetFrame where
  | opened (around : ItemRow) (negated : Bool)
  | operation (op : SetOp) (first : CharSet) (depth : Nat)

namespace Reading

def namedSetHere? : Reading (Option CharSet) := do
  let r ← get
  match r.text with
  | '[' :: ':' :: rest =>
    let (negated, rest) := match rest with
      | '^' :: rest => (true, rest)
      | _ => (false, rest)
    match rest.dropWhile (· != ':') with
    | ':' :: ']' :: after =>
      match asciiClass? (String.ofList (rest.takeWhile (· != ':'))) with
      | some named =>
        set { r with text := after }
        let named ← withCase named
        return some (← checked (if negated then named.complement else named))
      | none => return none
    | _ => return none
  | _ => return none

/-- Hyphens, or else one closing bracket, stand for themselves at the start of a set. -/
def leadingLiterals : Nat → ItemRow → Reading ItemRow
  | 0, _ => failure
  | fuel + 1, row => do
    let c ← current
    if c = '-' then
      advancePast
      leadingLiterals fuel (row.push (.singleton '-') 0)
    else if c = ']' ∧ row.count = 0 then
      advancePast
      discard current
      return row.push (.singleton ']') 0
    else return row

def openSet : Reading (Bool × ItemRow) := do
  advancePast
  let negated := (← current) = '^'
  if negated then
    advancePast
  return (negated, ← leadingLiterals (← rounds) {})

def setAtom : Reading Atom := do
  let c ← current
  if c = '\\' then escape
  else
    advance
    return .literal c

def literalOnly : Atom → Reading Char
  | .literal c => return c
  | _ => failure

/-- What comes after the next character. A verbose pattern has blanks, the mark of a comment, and
blanks again left out. -/
def following? (r : Reader) : Option Char :=
  let rest := r.text.drop 1
  if !r.flags.verbose then rest.head?
  else
    let later := rest.dropWhile Text.isBlank
    let later := if later.head? = some '#' then (later.drop 1).dropWhile Text.isBlank else later
    later.head?

def setItem : Reading CharSet := do
  let first ← setAtom
  skipBlanks
  let c ← current
  let following := following? (← get)
  if c ≠ '-' ∨ following = some ']' ∨ following = some '-' then
    match first with
    | .literal c => checked (.singleton c)
    | .set s => return s
    | .anchor _ => failure
  else
    advancePast
    let second ← setAtom
    let low ← literalOnly first
    let high ← literalOnly second
    guard (low ≤ high)
    checked (.ofRange low high)

/-- The set of a row, to which an operation is applied that comes before it, with its depth. -/
def finishOperand (row : ItemRow) : List SetFrame → Reading (CharSet × Nat × List SetFrame)
  | .operation op first depth :: frames => do
    let set := op.apply (← withCase first) (← withCase row.members)
    return (set, 1 + max depth row.depth, frames)
  | frames => return (row.members, row.depth, frames)

/-- Items up to the end of the outermost set, which is told with its depth. -/
def setFrom : Nat → ItemRow → List SetFrame → Reading (CharSet × Nat)
  | 0, _, _ => failure
  | fuel + 1, row, frames => do
    skipBlanks
    let c ← current
    let second := ((← get).text.drop 1).head?
    let operate (op : SetOp) : Reading (CharSet × Nat) := do
      advance
      advance
      let (first, depth, frames) ← finishOperand row frames
      setFrom fuel {} (.operation op first depth :: frames)
    if c = '[' then
      match ← namedSetHere? with
      | some named => setFrom fuel (row.push named 0) frames
      | none =>
        let (negated, start) ← openSet
        setFrom fuel start (.opened row negated :: frames)
    else if c = ']' then
      advance
      let (set, depth, frames) ← finishOperand row frames
      match frames with
      | .opened around negated :: outer =>
        let set ← withCase set
        let set ← checked (if negated then set.complement else set)
        if outer.isEmpty then return (set, depth + 1)
        setFrom fuel (around.push set (depth + 1)) outer
      | _ => failure
    else if c = '&' ∧ second = some '&' then operate .inter
    else if c = '-' ∧ second = some '-' then operate .diff
    else if c = '~' ∧ second = some '~' then operate .symmDiff
    else setFrom fuel (row.push (← setItem) 0) frames

def bracketed : Reading (CharSet × Nat) := do
  let (negated, start) ← openSet
  setFrom (← rounds) start [.opened {} negated]

end Reading

end NodeCanvas.Pattern
