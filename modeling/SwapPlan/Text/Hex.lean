import SwapPlan.Bytes
/-!
# Hexadecimal text

Two readers of hexadecimal digits.  The strict one (`bytes?`) takes an even number of digits and
nothing else.  The spaced one (`spacedDigits`, `packed`) skips blanks between digits and reports the
first byte that is neither; a text of odd length starts with a byte of a single digit, and a digit
left without a partner is dropped.  Both read the digits of a byte string as its bytes
(`bytes?_hexChars`, `spacedBytes_hex0x`).
-/
set_option autoImplicit false

namespace SwapPlan.Text.Hex

def digit? (c : Char) : Option Nat :=
  if '0' ≤ c ∧ c ≤ '9' then some (c.toNat - '0'.toNat)
  else if 'a' ≤ c ∧ c ≤ 'f' then some (c.toNat - 'a'.toNat + 10)
  else if 'A' ≤ c ∧ c ≤ 'F' then some (c.toNat - 'A'.toNat + 10)
  else none

def afterMark? : List Char → Option (List Char)
  | '0' :: 'x' :: rest => some rest
  | _ => none

def withoutMark : List Char → List Char
  | '0' :: 'x' :: rest => rest
  | '0' :: 'X' :: rest => rest
  | cs => cs

def byteLength (cs : List Char) : Nat := cs.foldr (fun c length => c.utf8Size + length) 0

def value (digits : List Nat) : Nat := digits.foldl (fun n d => 16 * n + d) 0

def digits? (cs : List Char) : Option (List Nat) := cs.mapM digit?

def pairs : List Nat → Bytes
  | high :: low :: rest => UInt8.ofNat (16 * high + low) :: pairs rest
  | _ => []

def bytes? (cs : List Char) : Option Bytes :=
  if cs.length % 2 = 0 then (digits? cs).map pairs else none

def nibbles : Bytes → List Nat
  | [] => []
  | b :: bs => b.toNat / 16 :: b.toNat % 16 :: nibbles bs

theorem digit?_hexDigit {n : Nat} (h : n < 16) : digit? (Bytes.hexDigit n) = some n := by
  have all : ∀ n, n < 16 → digit? (Bytes.hexDigit n) = some n := by decide
  exact all n h

theorem pairs_nibbles (bs : Bytes) : pairs (nibbles bs) = bs := by
  induction bs with
  | nil => rfl
  | cons b bs ih =>
    have halves : 16 * (b.toNat / 16) + b.toNat % 16 = b.toNat := Nat.div_add_mod _ _
    simp [nibbles, pairs, halves, ih]

theorem digits?_hexChars (bs : Bytes) : digits? (Bytes.hexChars bs) = some (nibbles bs) := by
  induction bs with
  | nil => rfl
  | cons b bs ih =>
    have high : b.toNat / 16 < 16 := Nat.div_lt_of_lt_mul b.toNat_lt
    have low : b.toNat % 16 < 16 := Nat.mod_lt _ (by decide)
    simp only [digits?] at ih
    simp [digits?, Bytes.hexChars, nibbles, digit?_hexDigit high, digit?_hexDigit low, ih]

theorem bytes?_hexChars (bs : Bytes) : bytes? (Bytes.hexChars bs) = some bs := by
  simp [bytes?, Bytes.length_hexChars, digits?_hexChars, pairs_nibbles]

def isGap (c : Char) : Bool := c = ' ' ∨ c = '\t' ∨ c = '\n' ∨ c = '\r'

inductive Fault
  | length (bytes : Nat)
  | digit (byte : UInt8) (position : Nat)
deriving DecidableEq

/-- The digits of a spaced text whose first byte has the given position. -/
def spacedDigits (position : Nat) : List Char → Except Fault (List Nat)
  | [] => .ok []
  | c :: cs =>
    if isGap c then spacedDigits (position + 1) cs
    else match digit? c with
      | some d => (spacedDigits (position + 1) cs).map (d :: ·)
      | none => .error (.digit ((String.utf8EncodeChar c).headD 0) position)

/-- The bytes that the digits of a text of the given length form.  In a text of odd length the
first digit is a byte of its own. -/
def packed (length : Nat) (digits : List Nat) : Bytes :=
  if length % 2 = 0 then pairs digits
  else match digits with
    | [] => []
    | d :: rest => UInt8.ofNat d :: pairs rest

/-- Reads a spaced text, with or without the mark, whose length in bytes after the mark satisfies
`fits`. -/
def spacedBytes (fits : Nat → Bool) (text : String) : Except Fault Bytes :=
  let cs := text.toList
  let (position, body) := match afterMark? cs with
    | some rest => (2, rest)
    | none => (0, cs)
  let length := byteLength body
  if fits length then (spacedDigits position body).map (packed length)
  else .error (.length length)

theorem isGap_hexDigit {n : Nat} (h : n < 16) : isGap (Bytes.hexDigit n) = false := by
  have all : ∀ n, n < 16 → isGap (Bytes.hexDigit n) = false := by decide
  exact all n h

theorem utf8Size_hexDigit {n : Nat} (h : n < 16) : (Bytes.hexDigit n).utf8Size = 1 := by
  have all : ∀ n, n < 16 → (Bytes.hexDigit n).utf8Size = 1 := by decide
  exact all n h

theorem spacedDigits_hexChars (position : Nat) (bs : Bytes) :
    spacedDigits position (Bytes.hexChars bs) = .ok (nibbles bs) := by
  induction bs generalizing position with
  | nil => rfl
  | cons b bs ih =>
    have high : b.toNat / 16 < 16 := Nat.div_lt_of_lt_mul b.toNat_lt
    have low : b.toNat % 16 < 16 := Nat.mod_lt _ (by decide)
    simp [Bytes.hexChars, nibbles, spacedDigits, isGap_hexDigit high, isGap_hexDigit low,
      digit?_hexDigit high, digit?_hexDigit low, ih, Except.map]

theorem byteLength_hexChars (bs : Bytes) : byteLength (Bytes.hexChars bs) = 2 * bs.length := by
  induction bs with
  | nil => rfl
  | cons b bs ih =>
    have high : b.toNat / 16 < 16 := Nat.div_lt_of_lt_mul b.toNat_lt
    have low : b.toNat % 16 < 16 := Nat.mod_lt _ (by decide)
    simp only [byteLength] at ih
    simp only [byteLength, Bytes.hexChars, List.foldr_cons, utf8Size_hexDigit high,
      utf8Size_hexDigit low, ih, List.length_cons]
    omega

theorem spacedBytes_hex0x {fits : Nat → Bool} {bs : Bytes} (h : fits (2 * bs.length) = true) :
    spacedBytes fits (Bytes.hex0x bs) = .ok bs := by
  have text : (Bytes.hex0x bs).toList = '0' :: 'x' :: Bytes.hexChars bs := by
    simp [Bytes.hex0x, Bytes.hex]
  simp [spacedBytes, text, afterMark?, byteLength_hexChars, h, spacedDigits_hexChars, packed,
    pairs_nibbles, Except.map]

end SwapPlan.Text.Hex
