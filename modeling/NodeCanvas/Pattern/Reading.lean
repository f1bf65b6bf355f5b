import NodeCanvas.Pattern.Property

namespace NodeCanvas.Pattern

structure Flags where
  ignoreCase : Bool := false
  multiLine : Bool := false
  dotAll : Bool := false
  anyLineEnd : Bool := false
  swapGreed : Bool := false
  unicode : Bool := true
  verbose : Bool := false

structure Reader where
  text : List Char
  flags : Flags := {}
  names : List (List Char) := []
  groups : Nat := 0

/-- A step of reading, which fails where the text is no pattern. -/
abbrev Reading := StateT Reader Option

namespace Reading

def peek? : Reading (Option Char) := return (← get).text.head?

def advance : Reading Unit := modify fun r => { r with text := r.text.drop 1 }

/-- Blanks and comments, which mean nothing in a verbose pattern. -/
def withoutComments : List Char → List Char
  | [] => []
  | c :: rest =>
    if Text.isBlank c then withoutComments rest
    else if c = '#' then
      skipComment rest
    else c :: rest
where
  skipComment : List Char → List Char
    | [] => []
    | c :: rest => if c = '\n' then withoutComments rest else skipComment rest

def skipBlanks : Reading Unit :=
  modify fun r => if r.flags.verbose then { r with text := withoutComments r.text } else r

def advancePast : Reading Unit := do
  advance
  skipBlanks

/-- The next character; the end of the pattern is a fault. -/
def current : Reading Char := do
  let some c ← peek? | failure
  return c

def skip? (word : List Char) : Reading Bool := do
  let r ← get
  if word.isPrefixOf r.text then
    set { r with text := r.text.drop word.length }
    return true
  return false

def takeWhile (keep : Char → Bool) : Reading (List Char) := do
  let r ← get
  set { r with text := r.text.dropWhile keep }
  return r.text.takeWhile keep

def expect (c : Char) : Reading Unit := do
  guard ((← current) = c)
  advance

/-- As many steps as there are characters left, and one for the end. -/
def rounds : Reading Nat := return (← get).text.length + 1

def upTo (close : Char) : Nat → Reading (List Char)
  | 0 => failure
  | fuel + 1 => do
    let c ← current
    if c = close then
      advance
      return []
    advancePast
    return c :: (← upTo close fuel)

/-- A set as it stands in the pattern; outside of Unicode it has to be one of the first 128
characters. -/
def checked (set : CharSet) : Reading CharSet := do
  if !(← get).flags.unicode then
    guard set.isAscii
  return set

def withCase (set : CharSet) : Reading CharSet := do
  let flags := (← get).flags
  if !flags.ignoreCase then return set
  return if flags.unicode then set.ignoringCase else set.ignoringAsciiCase

end Reading

end NodeCanvas.Pattern
