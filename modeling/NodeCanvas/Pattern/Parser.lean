import NodeCanvas.Pattern.Bracketed
import NodeCanvas.Pattern.Search
import NodeCanvas.Pattern.Weight

namespace NodeCanvas.Pattern

/-- An expression with the nesting depth of its written form, and whether it may be repeated. -/
structure Item where
  expr : Expr
  depth : Nat := 0
  repeatable : Bool := true

/-- An open group: its number if it has one, its finished choices and the items of the current
one, both the last first, and the flags to return to. -/
structure Level where
  index : Option Nat := none
  choices : List Item := []
  items : List Item := []
  outer : Flags := {}

namespace Item

def inRow (items : List Item) : Item :=
  match items with
  | [item] => item
  | _ => {
    expr := .concat (items.map (·.expr))
    depth := if items.isEmpty then 0 else 1 + (items.map (·.depth)).foldl max 0 }

def choices (items : List Item) : Item :=
  match items with
  | [item] => item
  | _ => {
    expr := .choice (items.map (·.expr))
    depth := 1 + (items.map (·.depth)).foldl max 0 }

end Item

namespace Level

def content (l : Level) : Item :=
  .choices ((Item.inRow l.items.reverse :: l.choices).reverse)

def close (l : Level) : Item :=
  let content := l.content
  { expr := l.index.elim content.expr (.group · content.expr), depth := content.depth + 1 }

def push (item : Item) (l : Level) : Level := { l with items := item :: l.items }

def nextChoice (l : Level) : Level :=
  { l with choices := Item.inRow l.items.reverse :: l.choices, items := [] }

end Level

namespace Reading

def setFlag (f : Flags) (letter : Char) (value : Bool) : Option Flags :=
  match letter with
  | 'i' => some { f with ignoreCase := value }
  | 'm' => some { f with multiLine := value }
  | 's' => some { f with dotAll := value }
  | 'R' => some { f with anyLineEnd := value }
  | 'U' => some { f with swapGreed := value }
  | 'u' => some { f with unicode := value }
  | 'x' => some { f with verbose := value }
  | _ => none

/-- Flags up to a closing mark; none may come twice, and a hyphen turns the later ones off. -/
def flagsFrom : List Char → Bool → List Char → Flags → Option Flags
  | [], _, _, f => some f
  | '-' :: rest, false, seen, f => if rest.isEmpty then none else flagsFrom rest true seen f
  | '-' :: _, true, _, _ => none
  | c :: rest, off, seen, f =>
    if seen.contains c then none
    else (setFlag f c (!off)).bind fun f => flagsFrom rest off (c :: seen) f

def isNameStart (c : Char) : Bool := c == '_' || Character.isLetter c

def isNameChar (c : Char) : Bool :=
  c == '_' || c == '.' || c == '[' || c == ']' || Character.isLetterOrNumber c

def groupName : Reading Unit := do
  let name ← takeWhile (· != '>')
  expect '>'
  let r ← get
  match name with
  | [] => failure
  | first :: rest =>
    guard (isNameStart first ∧ rest.all isNameChar ∧ !r.names.contains name)
    set { r with names := name :: r.names }

def numberedLevel (outer : Flags) : Reading Level := do
  modify fun r => { r with groups := r.groups + 1 }
  return { index := some (← get).groups, outer }

/-- An opening bracket: `none` where it only sets flags. -/
def openGroup (outer : Flags) : Reading (Option Level) := do
  advance
  skipBlanks
  let text := (← get).text
  guard !(["?=", "?!", "?<=", "?<!"].any fun word => word.toList.isPrefixOf text)
  if ← skip? "?P<".toList then
    groupName
    return some (← numberedLevel outer)
  if ← skip? "?<".toList then
    groupName
    return some (← numberedLevel outer)
  if ← skip? ['?'] then
    let letters ← takeWhile fun c => c != ':' && c != ')'
    let close ← current
    advance
    let some flags := flagsFrom letters false [] outer | failure
    modify fun r => { r with flags }
    if close = ':' then return some { outer }
    guard (!letters.isEmpty)
    return none
  return some (← numberedLevel outer)

/-- Digits up to the first other character, blanks around them skipped. -/
def decimal : Reading Nat := do
  discard (takeWhile Text.isBlank)
  let digits ← digitsFrom (← rounds)
  discard (takeWhile Text.isBlank)
  skipBlanks
  let n := digits.foldl (fun n c => n * 10 + (c.toNat - '0'.toNat)) 0
  guard (!digits.isEmpty ∧ n < 1 <<< 32)
  return n
where
  digitsFrom : Nat → Reading (List Char)
    | 0 => return []
    | fuel + 1 => do
      match ← peek? with
      | some c =>
        if c.isDigit then
          advancePast
          return c :: (← digitsFrom fuel)
        else return []
      | none => return []

def counts : Reading (Nat × Option Nat) := do
  advancePast
  let least ← decimal
  let c ← current
  if c = ',' then
    advancePast
    if (← current) = '\x7d' then
      return (least, none)
    let most ← decimal
    guard (least ≤ most ∧ (← current) = '\x7d')
    return (least, some most)
  guard (c = '\x7d')
  return (least, some least)

/-- The item repeated; a mark that comes next tells that few repetitions are better than many. -/
def repeatItem (item : Item) (least : Nat) (most : Option Nat) : Reading Item := do
  guard item.repeatable
  let lazy ← skip? ['?']
  let greedy := lazy = (← get).flags.swapGreed
  return { expr := item.expr.times least most greedy, depth := item.depth + 1 }

def literal (c : Char) : Reading Item := do
  return { expr := .ofSet (← withCase (.singleton c)) (!(← get).flags.unicode) }

def dot : Reading Item := do
  let flags := (← get).flags
  let lineEnds : CharSet :=
    if flags.dotAll then .empty
    else if flags.anyLineEnd then .ofText "\r\n"
    else .singleton '\n'
  return { expr := .ofSet (← checked lineEnds.complement) false }

def lineAnchor (start : Bool) : Reading Item := do
  let flags := (← get).flags
  return { expr := .anchor (
    if start then (if flags.multiLine then .lineStart flags.anyLineEnd else .textStart)
    else (if flags.multiLine then .lineEnd flags.anyLineEnd else .textEnd)) }

/-- An item that is neither a group nor a bracketed set nor a repetition. -/
def simpleItem (c : Char) : Reading Item := do
  if c = '\\' then
    match ← escape with
    | .literal c => literal c
    | .set s => return { expr := .ofSet s (!(← get).flags.unicode) }
    | .anchor a => return { expr := .anchor a }
  else
    advance
    match c with
    | '.' => dot
    | '^' => lineAnchor true
    | '$' => lineAnchor false
    | _ => literal c

def bracketedItem : Reading Item := do
  let (set, depth) ← bracketed
  return { expr := .ofSet set (!(← get).flags.unicode), depth }

def repeatLast (least : Nat) (most : Option Nat) (level : Level) : Reading Level := do
  match level.items with
  | item :: items => return { level with items := (← repeatItem item least most) :: items }
  | [] => failure

/-- Items up to the end of the pattern, in an open group and those around it. -/
def itemsFrom : Nat → Level → List Level → Reading Item
  | 0, _, _ => failure
  | fuel + 1, level, outer => do
    skipBlanks
    match ← peek? with
    | none =>
      guard outer.isEmpty
      return level.content
    | some '(' =>
      match ← openGroup (← get).flags with
      | some inner => itemsFrom fuel inner (level :: outer)
      | none => itemsFrom fuel (level.push { expr := .blank, repeatable := false }) outer
    | some ')' =>
      match outer with
      | around :: rest =>
        advance
        modify fun r => { r with flags := level.outer }
        itemsFrom fuel (around.push level.close) rest
      | [] => failure
    | some '|' =>
      advance
      itemsFrom fuel level.nextChoice outer
    | some '[' => itemsFrom fuel (level.push (← bracketedItem)) outer
    | some '*' =>
      advance
      itemsFrom fuel (← repeatLast 0 none level) outer
    | some '+' =>
      advance
      itemsFrom fuel (← repeatLast 1 none level) outer
    | some '?' =>
      advance
      itemsFrom fuel (← repeatLast 0 (some 1) level) outer
    | some '\x7b' =>
      let (least, most) ← counts
      advancePast
      itemsFrom fuel (← repeatLast least most level) outer
    | some c => itemsFrom fuel (level.push (← simpleItem c)) outer

end Reading

def Expr.ofText? (pattern : String) : Option Expr :=
  let start : Reader := { text := pattern.toList }
  match (Reading.itemsFrom (pattern.length + 1) {} []).run start with
  | some (item, _) => if item.depth ≤ depthLimit ∧ item.expr.isLight then some item.expr else none
  | none => none

/-- Whether a text goes against a pattern; what is no pattern forbids nothing. -/
def forbids (pattern text : String) : Bool :=
  match Expr.ofText? pattern with
  | some e => !e.foundIn text
  | none => false

end NodeCanvas.Pattern
