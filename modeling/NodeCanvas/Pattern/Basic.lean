import NodeCanvas.Pattern.Property

/-!
Patterns: what they are made of, and how they are put together. Expressions are built by functions
that keep them small: words grow together, groups in a row or in a choice are opened, choices
between single characters are sets, and what all choices begin with is written once.
-/
namespace NodeCanvas.Pattern

/-- Conditions on a place in a text, given the characters on both sides of it. -/
inductive Anchor where
  | textStart
  | textEnd
  | lineStart (anyLineEnd : Bool)
  | lineEnd (anyLineEnd : Bool)
  | wordEdge (unicode : Bool)
  | noWordEdge (unicode : Bool)
  | wordStart (unicode : Bool)
  | wordEnd (unicode : Bool)
  | beforeWord (unicode : Bool)
  | afterWord (unicode : Bool)
deriving DecidableEq

namespace Anchor

def isWord (unicode : Bool) (c : Option Char) : Bool :=
  c.any (if unicode then Character.wordCharacters else asciiWordChars).contains

def holds (before after : Option Char) : Anchor → Bool
  | .textStart => before.isNone
  | .textEnd => after.isNone
  | .lineStart false => before.isNone || before == some '\n'
  | .lineStart true =>
    before.isNone || before == some '\n' || (before == some '\r' && after != some '\n')
  | .lineEnd false => after.isNone || after == some '\n'
  | .lineEnd true =>
    after.isNone || after == some '\r' || (after == some '\n' && before != some '\r')
  | .wordEdge u => isWord u before != isWord u after
  | .noWordEdge u => isWord u before == isWord u after
  | .wordStart u => !isWord u before && isWord u after
  | .wordEnd u => isWord u before && !isWord u after
  | .beforeWord u => !isWord u before
  | .afterWord u => !isWord u after

end Anchor

inductive Expr where
  | blank
  | word (text : List Char)
  /-- One member of a set, which may be told to be one of octets. -/
  | one (set : CharSet) (octets : Bool)
  | anchor (a : Anchor)
  | repeated (least : Nat) (most : Option Nat) (greedy : Bool) (e : Expr)
  | group (index : Nat) (e : Expr)
  | seq (parts : List Expr)
  | alt (choices : List Expr)
deriving BEq

namespace Expr

def nothing : Expr := .one .empty true

def ofSet (set : CharSet) (octets : Bool) : Expr :=
  let set := if set.isAscii then set else set.diff .surrogates
  match set.only? with
  | some c => .word [c]
  | none => if set.ranges.isEmpty then nothing else .one set octets

/-! Lengths and edges of what is matched. -/

mutual

def isAlwaysEmpty : Expr → Bool
  | .blank | .anchor _ => true
  | .word _ | .one _ _ => false
  | .repeated _ most _ e => most.isSome && e.isAlwaysEmpty
  | .group _ e => e.isAlwaysEmpty
  | .seq parts | .alt parts => areAlwaysEmpty parts

def areAlwaysEmpty : List Expr → Bool
  | [] => true
  | e :: rest => e.isAlwaysEmpty && areAlwaysEmpty rest

end

def combineLengths (f : Nat → Nat → Nat) (a b : Option Nat) : Option Nat := do f (← a) (← b)

mutual

/-- A lower bound of the number of characters that are matched, if it is known. -/
def leastLength? : Expr → Option Nat
  | .blank | .anchor _ => some 0
  | .word text => some text.length
  | .one set _ => if set.ranges.isEmpty then none else some 1
  | .repeated least _ _ e => e.leastLength?.map (· * least)
  | .group _ e => e.leastLength?
  | .seq parts => totalLength? parts
  | .alt choices => shortestLength? choices

def totalLength? : List Expr → Option Nat
  | [] => some 0
  | e :: rest => combineLengths (· + ·) e.leastLength? (totalLength? rest)

def shortestLength? : List Expr → Option Nat
  | [] => none
  | [e] => e.leastLength?
  | e :: rest => combineLengths min e.leastLength? (shortestLength? rest)

end

mutual

/-- Whether every match starts (or, with `atEnd`, ends) with an anchor. -/
def isBoundBy (a : Anchor) (atEnd : Bool) : Expr → Bool
  | .anchor b => a = b
  | .repeated least _ _ e => 0 < least && e.isBoundBy a atEnd
  | .group _ e => e.isBoundBy a atEnd
  | .seq parts => if atEnd then (lastBoundBy a parts).1 else firstBoundBy a parts
  | .alt choices => allBoundBy a atEnd choices
  | _ => false

def firstBoundBy (a : Anchor) : List Expr → Bool
  | [] => false
  | e :: rest => e.isBoundBy a false || (e.isAlwaysEmpty && firstBoundBy a rest)

/-- Whether one of the parts from the last that matches more than nothing on is bound, and whether
there is no such part. -/
def lastBoundBy (a : Anchor) : List Expr → Bool × Bool
  | [] => (false, true)
  | e :: rest =>
    let (bound, allEmpty) := lastBoundBy a rest
    (bound || (allEmpty && e.isBoundBy a true), allEmpty && e.isAlwaysEmpty)

def allBoundBy (a : Anchor) (atEnd : Bool) : List Expr → Bool
  | [] => true
  | e :: rest => e.isBoundBy a atEnd && allBoundBy a atEnd rest

end

/-! How expressions are put together. -/

/-- So many times in a row; what matches nothing but the empty text is not repeated. -/
def times (least : Nat) (most : Option Nat) (greedy : Bool) (e : Expr) : Expr :=
  let (least, most) :=
    if e.isAlwaysEmpty then (min least 1, some (most.elim 1 (min 1))) else (least, most)
  if most = some 0 then .blank
  else if least = 1 ∧ most = some 1 then e
  else .repeated least most greedy e

def partsOf : Expr → List Expr
  | .seq parts => parts
  | .blank => []
  | e => [e]

/-- A part in front of others, grown together with the first of them if both are words. -/
def consPart (e : Expr) (rest : List Expr) : List Expr :=
  match e, rest with
  | .word a, .word b :: rest => .word (a ++ b) :: rest
  | e, rest => e :: rest

def concat (es : List Expr) : Expr :=
  match (es.flatMap partsOf).foldr consPart [] with
  | [] => .blank
  | [e] => e
  | parts => .seq parts

def choicesOf : Expr → List Expr
  | .alt choices => choices
  | e => [e]

def letter? : Expr → Option Char
  | .word [c] => some c
  | _ => none

def set? : Expr → Option CharSet
  | .one set _ => some set
  | _ => none

def parts? : Expr → Option (List Expr)
  | .seq parts => some parts
  | _ => none

def commonStart : List Expr → List Expr → List Expr
  | a :: as, b :: bs => if a == b then a :: commonStart as bs else []
  | _, _ => []

def sharedStart : List (List Expr) → List Expr
  | [] => []
  | row :: rows => rows.foldl commonStart row

/-- Any of some expressions. What all of them begin with is written once in front of the choice of
the rests, which is a choice of the same kind one level deeper. -/
def choiceWithin : Nat → List Expr → Expr
  | 0, es => .alt es
  | depth + 1, es =>
    match es.flatMap choicesOf with
    | [] => nothing
    | [e] => e
    | choices =>
      match choices.mapM letter?, choices.mapM set?, choices.mapM parts? with
      | some letters, _, _ => ofSet (.ofRanges (letters.map fun c => (c.toNat, c.toNat))) false
      | _, some sets, _ => ofSet (.ofRanges (sets.flatMap (·.ranges))) false
      | _, _, some rows =>
        match sharedStart rows with
        | [] => .alt choices
        | start =>
          let rests := rows.map fun row => concat (row.drop start.length)
          concat (start ++ [choiceWithin depth rests])
      | _, _, _ => .alt choices

end Expr

def depthLimit : Nat := 250

def Expr.choice (es : List Expr) : Expr := choiceWithin depthLimit es

end NodeCanvas.Pattern
