import NodeCanvas.Pattern.Basic
import NodeCanvas.Pattern.Octets

/-!
The weight of a pattern: the size of the two automata over the octets of a text that follow it
forwards and backwards. A pattern that outweighs a limit is refused.

Every state has the same weight, and so has every range of octets that is told apart in it and
every place where it goes on without an octet. Repetitions are written out. Within one set, states
that look alike are shared as far as a table of places remembers them.
-/
namespace NodeCanvas.Pattern

/-- How many states there are, and what they weigh beyond what each of them does. -/
structure Tally where
  states : Nat := 0
  extra : Nat := 0

namespace Tally

def weight (t : Tally) : Nat := 32 * t.states + t.extra

/-- The weight that no automaton may exceed. -/
def limit : Nat := 10 <<< 20

def isOver (t : Tally) : Bool := limit < t.weight

def add (t : Tally) (states extra : Nat) : Tally :=
  ⟨t.states + states, t.extra + extra⟩

def addRanges (t : Tally) (count : Nat) : Tally := t.add 1 (8 * count)

/-- States from which one of two others comes next, without an octet. -/
def addForks (t : Tally) (count : Nat) : Tally := t.add count (8 * count)

def times (step : Tally → Tally) : Nat → Tally → Tally
  | 0, t => t
  | n + 1, t => if t.isOver then t else times step n (step t)

end Tally

/-! States of a set, shared where they look alike. -/

/-- A place in a table of a size for a row of numbers, which are mixed one after the other. -/
def placeOf (size : Nat) (row : List Nat) : Nat :=
  let hash := row.foldl (fun hash n => (hash ^^^ n.toUInt64) * 1099511628211)
    (14695981039346656037 : UInt64)
  hash.toNat % size

/-- States that were added, and a table with the last one at each place and what it looks like. -/
structure Sharing where
  tally : Tally
  known : Array (Option (List Nat × Nat))

def Sharing.start (tally : Tally) (places : Nat) : Sharing := ⟨tally, Array.replicate places none⟩

/-- The state that looks as told, which is added if the table does not hold it. -/
def Sharing.state (s : Sharing) (look : List Nat) (add : Tally → Tally) : Nat × Sharing :=
  let place := placeOf s.known.size look
  match (s.known.getD place none).filter (·.1 == look) with
  | some (_, state) => (state, s)
  | none =>
    let state := s.tally.states
    (state, ⟨add s.tally, s.known.setIfInBounds place (some (look, state))⟩)

/-- The state from which some rows of at most so many octet ranges lead to a target. Rows that begin
alike go on at the same state. -/
def addRows (target : Nat) : Nat → List (List OctetRange) → Sharing → Nat × Sharing
  | 0, _, s => (target, s)
  | length + 1, rows, s =>
    let groups := rows.splitBy fun a b => a.head? == b.head?
    let (edges, s) := groups.foldl (fun (edges, s) group =>
      match group with
      | (range :: []) :: _ => ([range.low, range.high, target] :: edges, s)
      | (range :: _) :: _ =>
        let (next, s) := addRows target length (group.map List.tail) s
        ([range.low, range.high, next] :: edges, s)
      | _ => (edges, s)) (([] : List (List Nat)), s)
    s.state edges.reverse.flatten (·.addRanges edges.length)

def addRowBack (last : Nat) (s : Sharing) (row : List OctetRange) : Sharing :=
  (row.foldl (fun (next, s) range => s.state [next, range.low, range.high] (·.add 1 0))
    (last, s)).2

namespace Tally

def addSet (back : Bool) (set : CharSet) (t : Tally) : Tally :=
  if t.isOver then t
  else if set.isAscii then (t.add 1 0).addRanges set.ranges.length
  else
    let rows := set.octetRows
    if back then
      let last := t.states + 1
      (rows.foldl (addRowBack last) (.start (t.add 2 (4 * rows.length)) 1000)).tally
    else
      (addRows t.states 4 rows (.start (t.add 1 0) 10000)).2.tally

/-! Choices between words, whose common beginnings are followed at once. -/

/-- The states of a choice between rows of octets of at most some length. Where a row ends among
others, those after it are not followed together with those before it. -/
def addTree : Nat → List (List Nat) → Tally → Tally
  | 0, _, t => t
  | length + 1, rows, t =>
    let rows := if rows.head? = some [] then [] :: rows.dropWhile (·.isEmpty) else rows
    let chunks := (rows.splitOn []).filter (!·.isEmpty)
    if chunks.isEmpty then t
    else
      let ends := rows.countP (·.isEmpty)
      chunks.foldl (fun t chunk =>
        let heads := (chunk.filterMap List.head?).eraseDups
        let t := if heads.length = 1 then t.add 1 0 else t.addRanges heads.length
        heads.foldl (fun t head =>
          addTree length ((chunk.filter (·.head? = some head)).map List.tail) t) t)
        (t.add 1 (4 * (chunks.length + ends)))

def octetsOf (text : List Char) : List Nat :=
  ((String.ofList text).toUTF8.toList).map UInt8.toNat

def addWords (back : Bool) (words : List (List Char)) (t : Tally) : Tally :=
  let rows := words.map fun word => if back then (octetsOf word).reverse else octetsOf word
  addTree (1 + (rows.map List.length).foldl max 0) rows (t.add 1 0)

/-- The states of a repetition, where `once` adds those of what is repeated and `long` tells whether
that is never empty. -/
def addRepeated (once : Tally → Tally) (long : Bool) (t : Tally) : Nat → Option Nat → Tally
  | 0, some 1 => (once (t.addForks 1)).add 1 0
  | 0, none => if long then once (t.addForks 1) else ((once t).addForks 2).add 1 0
  | least, none => (t.times once least).addForks 1
  | least, some most =>
    let t := if least = 0 ∧ 0 < most then t.add 1 0 else t.times once least
    if least = most then t
    else (t.add 1 0).times (fun t => once (t.addForks 1)) (most - least)

end Tally

namespace Expr

def word? : Expr → Option (List Char)
  | .word text => some text
  | _ => none

mutual

def tally (back : Bool) : Expr → Tally → Tally
  | .blank, t | .anchor _, t => t.add 1 0
  | .word text, t => t.add (String.ofList text).utf8ByteSize 0
  | .one set _, t => t.addSet back set
  | .repeated least most _ e, t =>
    t.addRepeated (e.tally back) (e.leastLength?.any (0 < ·)) least most
  | .group _ e, t => if back then e.tally back t else (e.tally back (t.add 1 0)).add 1 0
  | .seq parts, t => if back then tallyRowBack parts t else tallyRow parts t
  | .alt choices, t =>
    match choices.mapM word? with
    | some words => t.addWords back words
    | none => tallyChoices back choices.length 0 choices t

def tallyRow : List Expr → Tally → Tally
  | [], t => t
  | e :: rest, t => tallyRow rest (e.tally false t)

def tallyRowBack : List Expr → Tally → Tally
  | [], t => t
  | e :: rest, t => e.tally true (tallyRowBack rest t)

def tallyChoices (back : Bool) (count : Nat) : Nat → List Expr → Tally → Tally
  | _, [], t => t
  | before, e :: rest, t =>
    let t := e.tally back t
    tallyChoices back count (before + 1) rest (if before = 1 then t.add 2 (4 * count) else t)

end

/-- What an automaton weighs: a search that may start anywhere has its own states in front. -/
def weight (back : Bool) (e : Expr) : Nat :=
  let bound := if back then e.isBoundBy .textEnd true else e.isBoundBy .textStart false
  let t : Tally := if bound then ⟨1, 0⟩ else ⟨3, 16⟩
  let t := if back then e.tally back t else (e.tally back (t.add 1 0)).add 1 0
  (t.add 1 0).weight

/-- A choice between so many words that it is followed without states. -/
def isLongWordList : Expr → Bool
  | .alt choices => 3000 ≤ choices.length && (choices.mapM word?).isSome
  | _ => false

/-- Whether a pattern keeps the limit in both directions. -/
def isLight (e : Expr) : Bool :=
  e.isLongWordList || (e.weight false ≤ Tally.limit && e.weight true ≤ Tally.limit)

end Expr

end NodeCanvas.Pattern
