import NodeCanvas.Pattern.Basic

namespace NodeCanvas.Pattern

/-- A step of a program; the steps after it are given by their places. -/
inductive Step where
  | found
  | stuck
  | one (set : CharSet) (next : Nat)
  | anchor (a : Anchor) (next : Nat)
  | fork (first second : Nat)

abbrev Program := Array Step

namespace Program

def addWord (text : List Char) (next : Nat) (p : Program) : Nat × Program :=
  text.foldr (fun c (next, p) => (p.size, p.push (.one (.singleton c) next))) (next, p)

/-- The steps of so many copies, each of which goes on at the one after it. -/
def addCopies (add : Nat → Program → Nat × Program) : Nat → Nat → Program → Nat × Program
  | 0, next, p => (next, p)
  | n + 1, next, p =>
    let (first, p) := add next p
    addCopies add n first p

/-- The steps of so many copies, before each of which the rest may be left out. -/
def addOptional (add : Nat → Program → Nat × Program) (last : Nat) :
    Nat → Nat → Program → Nat × Program
  | 0, next, p => (next, p)
  | n + 1, next, p =>
    let (first, p) := add next p
    addOptional add last n p.size (p.push (.fork first last))

def addLoop (add : Nat → Program → Nat × Program) (least next : Nat) (p : Program) :
    Nat × Program :=
  let loop := p.size
  let (first, p) := add loop (p.push .stuck)
  let p := p.setIfInBounds loop (.fork first next)
  if least = 0 then (loop, p) else addCopies add (least - 1) first p

mutual

/-- Add the steps of a pattern that go on at a place, and tell where they start. -/
def add : Expr → Nat → Program → Nat × Program
  | .blank, next, p => (next, p)
  | .word text, next, p => addWord text next p
  | .one set _, next, p => (p.size, p.push (.one set next))
  | .anchor a, next, p => (p.size, p.push (.anchor a next))
  | .repeated least none _ e, next, p => addLoop (add e) least next p
  | .repeated least (some most) _ e, next, p =>
    let (first, p) := addOptional (add e) next (most - least) next p
    addCopies (add e) least first p
  | .group _ e, next, p => add e next p
  | .seq parts, next, p => addRow parts next p
  | .alt choices, next, p => addChoices choices next p

def addRow : List Expr → Nat → Program → Nat × Program
  | [], next, p => (next, p)
  | e :: rest, next, p =>
    let (middle, p) := addRow rest next p
    add e middle p

def addChoices : List Expr → Nat → Program → Nat × Program
  | [], _, p => (p.size, p.push .stuck)
  | e :: rest, next, p =>
    let (second, p) := addChoices rest next p
    let (first, p) := add e next p
    (p.size, p.push (.fork first second))

end

def ofExpr (e : Expr) : Nat × Program := add e 0 #[.found]

/-- What is reached at a place of a text without going on in it. -/
structure Front where
  reached : Array Bool
  waiting : List (CharSet × Nat) := []
  found : Bool := false

/-- Follow all steps that take no character, as many as there are at most. -/
def follow (p : Program) (before after : Option Char) : Nat → List Nat → Front → Front
  | 0, _, f | _, [], f => f
  | fuel + 1, place :: rest, f =>
    if f.reached.getD place true then follow p before after fuel rest f
    else
      let f := { f with reached := f.reached.setIfInBounds place true }
      match p.getD place .stuck with
      | .found => { f with found := true }
      | .stuck => follow p before after fuel rest f
      | .one set next =>
        follow p before after fuel rest { f with waiting := (set, next) :: f.waiting }
      | .anchor a next =>
        follow p before after fuel (if a.holds before after then next :: rest else rest) f
      | .fork first second => follow p before after fuel (first :: second :: rest) f

/-- All that is reached from some places. Every step is left at most twice. -/
def front (p : Program) (before after : Option Char) (places : List Nat) : Front :=
  follow p before after (2 * p.size + places.length + 1) places
    { reached := Array.replicate p.size false }

def foundAfter (p : Program) (start : Nat) (before : Option Char) (places : List Nat) :
    List Char → Bool
  | [] => (p.front before none (start :: places)).found
  | c :: text =>
    let front := p.front before (some c) (start :: places)
    front.found
      || foundAfter p start (some c)
        ((front.waiting.filter fun step => step.1.contains c).map (·.2)) text

end Program

def Expr.foundIn (e : Expr) (text : String) : Bool :=
  let (start, p) := Program.ofExpr e
  p.foundAfter start none [] text.toList

end NodeCanvas.Pattern
