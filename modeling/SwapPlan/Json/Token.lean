import SwapPlan.Json.Number
import SwapPlan.Text.Hex
/-!
# JSON tokens

`tokens?` cuts a text into tokens.  A string whose escapes leave a surrogate unpaired and a number
above the greatest double are well formed but denote nothing; their tokens say so, and the reader
of a value decides whether that matters.
-/
set_option autoImplicit false

namespace SwapPlan.Json

inductive Token
  | openArray
  | closeArray
  | openObject
  | closeObject
  | colon
  | comma
  | scalar (value : Option Json)
  | text (value : Option String)

namespace Token

/-- What the scanner is in the middle of.  Collected characters and code units are in reverse. -/
inductive Mode
  | between
  | bare (chars : List Char)
  | quoted (units : List Nat)
  | escaped (units : List Nat)
  | hex (units : List Nat) (left : Nat) (value : Nat)

def isBlank (c : Char) : Bool := c = ' ' ∨ c = '\t' ∨ c = '\n' ∨ c = '\r'

def isBare (c : Char) : Bool := c.isAlphanum ∨ c = '-' ∨ c = '+' ∨ c = '.'

def ofBare? (chars : List Char) : Option Token :=
  if chars = "null".toList then some (scalar (some .null))
  else if chars = "true".toList then some (scalar (some (.bool true)))
  else if chars = "false".toList then some (scalar (some (.bool false)))
  else (Literal.ofChars? chars).map fun literal => scalar literal.toJson?

/-- Code points and surrogates as text; a surrogate has to be the first or second half of a pair. -/
def ofUnits? : List Nat → Option (List Char)
  | [] => some []
  | high :: rest =>
    if 0xD800 ≤ high ∧ high < 0xDC00 then
      match rest with
      | low :: rest =>
        if 0xDC00 ≤ low ∧ low < 0xE000 then
          (ofUnits? rest).map
            (Char.ofNat (0x10000 + (high - 0xD800) * 0x400 + (low - 0xDC00)) :: ·)
        else none
      | [] => none
    else if 0xDC00 ≤ high ∧ high < 0xE000 then none
    else (ofUnits? rest).map (Char.ofNat high :: ·)

def unescape? (c : Char) : Option Nat :=
  match c with
  | '\x22' => some 0x22
  | '\x5c' => some 0x5C
  | '/' => some 0x2F
  | 'b' => some 0x08
  | 'f' => some 0x0C
  | 'n' => some 0x0A
  | 'r' => some 0x0D
  | 't' => some 0x09
  | _ => none

def ofMark? (c : Char) : Option Token :=
  match c with
  | '[' => some openArray
  | ']' => some closeArray
  | '\x7b' => some openObject
  | '\x7d' => some closeObject
  | ':' => some colon
  | ',' => some comma
  | _ => none

def start (done : List Token) (c : Char) : Option (Mode × List Token) :=
  if isBlank c then some (.between, done)
  else if c = '\x22' then some (.quoted [], done)
  else if isBare c then some (.bare [c], done)
  else (ofMark? c).map fun t => (.between, t :: done)

def step (mode : Mode) (done : List Token) (c : Char) : Option (Mode × List Token) :=
  match mode with
  | .between => start done c
  | .bare chars =>
    if isBare c then some (.bare (c :: chars), done)
    else do start ((← ofBare? chars.reverse) :: done) c
  | .quoted units =>
    if c = '\x22' then
      some (.between, text ((ofUnits? units.reverse).map String.ofList) :: done)
    else if c = '\x5c' then some (.escaped units, done)
    else if c.toNat < 0x20 then none
    else some (.quoted (c.toNat :: units), done)
  | .escaped units =>
    if c = 'u' then some (.hex units 3 0, done)
    else (unescape? c).map fun unit => (.quoted (unit :: units), done)
  | .hex units left value => do
    let value := 16 * value + (← Text.Hex.digit? c)
    match left with
    | 0 => some (.quoted (value :: units), done)
    | left + 1 => some (.hex units left value, done)

def scan (mode : Mode) (done : List Token) : List Char → Option (List Token)
  | [] =>
    match mode with
    | .between => some done
    | .bare chars => (ofBare? chars.reverse).map (· :: done)
    | _ => none
  | c :: cs =>
    match step mode done c with
    | some (mode, done) => scan mode done cs
    | none => none

end Token

def tokens? (text : String) : Option (List Token) :=
  (Token.scan .between [] text.toList).map List.reverse

end SwapPlan.Json
