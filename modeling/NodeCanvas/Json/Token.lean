import NodeCanvas.Json.Numeral
import NodeCanvas.Text.Hex

/-!
The tokens of a document. The lexer is an automaton over the characters, so every text is read
in one pass. A numeral out of range and a text with half a surrogate pair are well-formed tokens
without a value.
-/
namespace NodeCanvas.Json

inductive Token where
  | openArray
  | closeArray
  | openObject
  | closeObject
  | comma
  | colon
  | null
  | bool (b : Bool)
  | num (n : Option Number)
  | str (s : Option String)

structure Quoted where
  /-- The characters read, the last one first. -/
  done : List Char := []
  /-- The first half of a surrogate pair, waiting for its second half. -/
  half : Option Nat := none
  sound : Bool := true

namespace Quoted

/-- Without its second half, the first half of a pair spoils the text. -/
def settle (q : Quoted) : Quoted :=
  match q.half with
  | none => q
  | some _ => { q with half := none, sound := false }

def push (q : Quoted) (c : Char) : Quoted :=
  let q := q.settle
  { q with done := c :: q.done }

def pushUnit (q : Quoted) (unit : Nat) : Quoted :=
  if 0xDC00 ≤ unit ∧ unit < 0xE000 then
    match q.half with
    | some high =>
      let code := 0x10000 + (high - 0xD800) * 0x400 + (unit - 0xDC00)
      { q with done := Char.ofNat code :: q.done, half := none }
    | none => { q with sound := false }
  else if 0xD800 ≤ unit ∧ unit < 0xDC00 then { q.settle with half := some unit }
  else q.push (Char.ofNat unit)

def value? (q : Quoted) : Option String :=
  let q := q.settle
  if q.sound then some (String.ofList q.done.reverse) else none

end Quoted

/-- Where the lexer stands inside or between tokens. -/
inductive Lexing where
  | between
  /-- The rest of a word that is expected, and its token. -/
  | word (rest : List Char) (token : Token)
  | numeral (n : Numeral)
  | quoted (q : Quoted)
  | escape (q : Quoted)
  /-- Hexadecimal digits still expected, and the value of those read. -/
  | unit (q : Quoted) (missing : Nat) (value : Nat)

structure Lexer where
  /-- The tokens read, the last one first. -/
  tokens : List Token := []
  state : Lexing := .between

namespace Lexer

def emit (l : Lexer) (t : Token) : Lexer := { tokens := t :: l.tokens }

def inside (l : Lexer) (state : Lexing) : Lexer := { l with state := state }

def isBlank (c : Char) : Bool := c == ' ' || c == '\t' || c == '\n' || c == '\r'

def begin? (l : Lexer) (c : Char) : Option Lexer :=
  if isBlank c then some (l.inside .between)
  else if c = '[' then some (l.emit .openArray)
  else if c = ']' then some (l.emit .closeArray)
  else if c = '\x7b' then some (l.emit .openObject)
  else if c = '\x7d' then some (l.emit .closeObject)
  else if c = ',' then some (l.emit .comma)
  else if c = ':' then some (l.emit .colon)
  else if c = '"' then some (l.inside (.quoted {}))
  else if c = 'n' then some (l.inside (.word ['u', 'l', 'l'] .null))
  else if c = 't' then some (l.inside (.word ['r', 'u', 'e'] (.bool true)))
  else if c = 'f' then some (l.inside (.word ['a', 'l', 's', 'e'] (.bool false)))
  else (Numeral.start? c).map fun n => l.inside (.numeral n)

def escaped? (c : Char) : Option Char :=
  match c with
  | '"' => some '"'
  | '\\' => some '\\'
  | '/' => some '/'
  | 'b' => some '\x08'
  | 'f' => some '\x0c'
  | 'n' => some '\n'
  | 'r' => some '\r'
  | 't' => some '\t'
  | _ => none

def step? (l : Lexer) (c : Char) : Option Lexer :=
  match l.state with
  | .between => l.begin? c
  | .word rest token =>
    match rest with
    | [] => none
    | [last] => if c = last then some (l.emit token) else none
    | next :: rest => if c = next then some (l.inside (.word rest token)) else none
  | .numeral n =>
    match n.step? c with
    | some n => some (l.inside (.numeral n))
    | none => if n.complete then (l.emit (.num n.value?)).begin? c else none
  | .quoted q =>
    if c = '"' then some (l.emit (.str q.value?))
    else if c = '\\' then some (l.inside (.escape q))
    else if c.toNat < 0x20 then none
    else some (l.inside (.quoted (q.push c)))
  | .escape q =>
    if c = 'u' then some (l.inside (.unit q 4 0))
    else (escaped? c).map fun c => l.inside (.quoted (q.push c))
  | .unit q missing value =>
    (Text.hexValue? c).map fun digit =>
      let value := value * 16 + digit
      if missing ≤ 1 then l.inside (.quoted (q.pushUnit value))
      else l.inside (.unit q (missing - 1) value)

def finish? (l : Lexer) : Option (List Token) :=
  match l.state with
  | .between => some l.tokens.reverse
  | .numeral n =>
    if n.complete then some (l.emit (.num n.value?)).tokens.reverse else none
  | _ => none

end Lexer

def tokens? (text : List Char) : Option (List Token) :=
  (text.foldlM Lexer.step? {}).bind Lexer.finish?

end NodeCanvas.Json
