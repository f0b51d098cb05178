/-!
# Byte strings

Calldata, packed records and file contents are lists of bytes.  This module fixes how a number is
written in a given number of bytes, most significant first, and how it is read back.  Reading
undoes writing modulo the capacity of the field (`ofBigEndian_bigEndian`), and writing undoes
reading exactly (`bigEndian_ofBigEndian`).
-/
set_option autoImplicit false

namespace SwapPlan

abbrev Bytes := List UInt8

/-- How many numbers fit a field of `width` bytes. -/
def capacity (width : Nat) : Nat := Nat.pow 256 width

def bigEndian : Nat → Nat → Bytes
  | 0, _ => []
  | width + 1, n => UInt8.ofNat (n / capacity width) :: bigEndian width n

def ofBigEndian : Bytes → Nat
  | [] => 0
  | b :: bs => b.toNat * capacity bs.length + ofBigEndian bs

theorem capacity_pos (width : Nat) : 0 < capacity width := Nat.pow_pos (by decide)

theorem capacity_succ (width : Nat) : capacity (width + 1) = capacity width * 256 := rfl

@[simp] theorem length_bigEndian (width n : Nat) : (bigEndian width n).length = width := by
  induction width with
  | zero => rfl
  | succ width ih => simp [bigEndian, ih]

theorem ofBigEndian_lt (bs : Bytes) : ofBigEndian bs < capacity bs.length := by
  induction bs with
  | nil => exact capacity_pos 0
  | cons b bs ih =>
    have hb : b.toNat + 1 ≤ 256 := b.toNat_lt
    have h := Nat.mul_le_mul_right (capacity bs.length) hb
    simp only [ofBigEndian, List.length_cons, capacity_succ, Nat.add_mul, Nat.one_mul] at *
    omega

theorem ofBigEndian_bigEndian (width n : Nat) :
    ofBigEndian (bigEndian width n) = n % capacity width := by
  induction width with
  | zero => exact (Nat.mod_one n).symm
  | succ width ih =>
    have byte : (UInt8.ofNat (n / capacity width)).toNat = n / capacity width % 256 := rfl
    rw [bigEndian, ofBigEndian, length_bigEndian, ih, byte, capacity_succ, Nat.mod_mul,
      Nat.add_comm, Nat.mul_comm]

theorem bigEndian_add_mul (width n k : Nat) :
    bigEndian width (n + capacity width * k) = bigEndian width n := by
  induction width generalizing k with
  | zero => rfl
  | succ width ih =>
    have hp := capacity_pos width
    have hk : n + capacity (width + 1) * k = n + capacity width * (256 * k) := by
      rw [capacity_succ, Nat.mul_assoc]
    have hd : (n + capacity width * (256 * k)) / capacity width = n / capacity width + 256 * k :=
      Nat.add_mul_div_left _ _ hp
    simp only [bigEndian, hk, ih, hd]
    congr 1
    apply UInt8.toNat_inj.1
    simp

theorem bigEndian_ofBigEndian (bs : Bytes) : bigEndian bs.length (ofBigEndian bs) = bs := by
  induction bs with
  | nil => rfl
  | cons b bs ih =>
    have hp := capacity_pos bs.length
    have hlt := ofBigEndian_lt bs
    have hd : (b.toNat * capacity bs.length + ofBigEndian bs) / capacity bs.length = b.toNat := by
      rw [Nat.add_comm, Nat.add_mul_div_right _ _ hp, Nat.div_eq_of_lt hlt, Nat.zero_add]
    have ht : bigEndian bs.length (b.toNat * capacity bs.length + ofBigEndian bs) = bs := by
      rw [Nat.add_comm, Nat.mul_comm, bigEndian_add_mul, ih]
    simp only [List.length_cons, bigEndian, ofBigEndian, hd, ht]
    simp

namespace Bytes

def hexDigit (n : Nat) : Char := "0123456789abcdef".toList.getD n '0'

def hexChars : Bytes → List Char
  | [] => []
  | b :: bs => hexDigit (b.toNat / 16) :: hexDigit (b.toNat % 16) :: hexChars bs

@[simp] theorem length_hexChars (bs : Bytes) : (hexChars bs).length = 2 * bs.length := by
  induction bs with
  | nil => rfl
  | cons b bs ih => simp only [hexChars, List.length_cons, ih]; omega

def hex (bs : Bytes) : String := String.ofList (hexChars bs)

def hex0x (bs : Bytes) : String := "0x" ++ hex bs

/-- The `length` bytes from position `start` on, if the string has that many. -/
def slice? (bs : Bytes) (start length : Nat) : Option Bytes :=
  if start + length ≤ bs.length then some ((bs.drop start).take length) else none

theorem length_of_slice? {bs part : Bytes} {start length : Nat}
    (h : slice? bs start length = some part) : part.length = length := by
  unfold slice? at h
  split at h
  · cases h
    simp only [List.length_take, List.length_drop]
    omega
  · cases h

def ofText (text : String) : Bytes := text.toUTF8.toList

def text? (bs : Bytes) : Option String := String.fromUTF8? ⟨bs.toArray⟩

end Bytes
end SwapPlan
