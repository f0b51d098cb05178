import SwapPlan.Proofs.Record.Headers
/-!
# Reading records with numbers of bounded size

A machine has numbers of some bits.  It stops where a sum does not fit them and where a part of a
byte string is asked for that the string does not have.  The reader of records never comes to that,
wherever it is asked to start: on every byte string that a memory of that size can hold it ends with
the result over unbounded numbers (`decodeAt_eq`).
-/
set_option autoImplicit false

namespace SwapPlan.Machine

inductive Trap
  | overflow
  | outside
  | allocation
deriving DecidableEq

def greatest (bits : Nat) : Nat := 2 ^ bits - 1

def add (bits a b : Nat) : Except Trap Nat :=
  if a + b ≤ greatest bits then .ok (a + b) else .error .overflow

def part? (bs : Bytes) (start stop : Nat) : Option Bytes :=
  if start ≤ stop ∧ stop ≤ bs.length then some ((bs.drop start).take (stop - start)) else none

def part (bs : Bytes) (start stop : Nat) : Except Trap Bytes :=
  match part? bs start stop with
  | some bytes => .ok bytes
  | none => .error .outside

def number (bs : Bytes) : Nat := bs.foldl (fun n b => (n * 256 + b.toNat) % 2 ^ 64) 0

/-- The bytes from a position on, if there are as many as needed.  A sum that is too large counts as
the largest number. -/
def takeAt (bits : Nat) (data : Bytes) (position needed : Nat) : Except DecodeError Bytes :=
  match part? data position (min (position + needed) (greatest bits)) with
  | some bytes => .ok bytes
  | none => .error (.truncated position needed (data.length - position))

def readColumns (bits : Nat) (bytes : Bytes) :
    List (Column × Nat) → (position : Nat) → Header → Except Trap Header
  | [], _, h => .ok h
  | (column, width) :: rest, position, h => do
    let behind ← add bits position width
    let digits ← part bytes position behind
    readColumns bits bytes rest behind (h.set column (number digits % 2 ^ bits))

/-- Reads the record at a position; also gives the position behind it. -/
def decodeAt (bits : Nat) (layout : HeaderLayout) (data : Bytes) (position : Nat) :
    Except Trap (Except DecodeError (Instruction × Nat)) :=
  match takeAt bits data position headerLength with
  | .error e => .ok (.error e)
  | .ok bytes => do
    let address ← part bytes 0 Address.size
    let header ← readColumns bits bytes layout.columns Address.size {}
    let padding ← part bytes (headerLength - paddingLength) bytes.length
    let flags := Flags.ofNat header.flags
    let special := UInt16.ofNat header.special
    if padding.any (· ≠ 0) then
      return .error (.nonZeroPadding position)
    else if flags.hasUndefined then
      return .error (.undefinedFlags position flags.undefinedBits)
    else if special ≠ 0 ∧ ¬flags.contains .specialExchange then
      return .error (.unflaggedSpecial position special)
    else
      let start ← add bits position headerLength
      match takeAt bits data start header.length with
      | .error e => return .error e
      | .ok calldata =>
        let positions := flags.positions (UInt16.ofNat header.fromAmount)
          (UInt16.ofNat header.toAmount) (UInt16.ofNat header.srcToken)
          (UInt16.ofNat header.returnAmount)
        match positions.firstOutside? header.length with
        | some (name, offset) =>
          return .error (.positionOutside (.ofPrefix address) name offset header.length)
        | none =>
          let behind ← add bits start header.length
          return .ok (⟨.ofPrefix address, positions,
            if flags.contains .specialExchange then some special else none, flags, calldata⟩,
            behind)

variable {bits : Nat}

theorem add_eq_ok {a b : Nat} (fits : a + b ≤ greatest bits) : add bits a b = .ok (a + b) :=
  if_pos fits

theorem part_eq_ok {bs : Bytes} {start stop : Nat} (order : start ≤ stop) (inside : stop ≤ bs.length) :
    part bs start stop = .ok ((bs.drop start).take (stop - start)) := by
  rw [part, part?, if_pos ⟨order, inside⟩]

theorem foldl_digits (bs : Bytes) (n : Nat) :
    bs.foldl (fun n b => (n * 256 + b.toNat) % 2 ^ 64) (n % 2 ^ 64) =
      (n * capacity bs.length + ofBigEndian bs) % 2 ^ 64 := by
  induction bs generalizing n with
  | nil => simp [capacity, ofBigEndian]
  | cons b bs ih =>
    have step : (n % 2 ^ 64 * 256 + b.toNat) % 2 ^ 64 = (n * 256 + b.toNat) % 2 ^ 64 := by
      rw [Nat.add_mod, Nat.mul_mod, Nat.mod_mod, ← Nat.mul_mod, ← Nat.add_mod]
    rw [List.foldl_cons, step, ih, List.length_cons, capacity_succ, ofBigEndian, Nat.add_mul,
      Nat.mul_assoc, Nat.mul_comm 256, Nat.add_assoc]

theorem number_eq {bs : Bytes} (short : bs.length ≤ 8) : number bs = ofBigEndian bs := by
  have small : ofBigEndian bs < 2 ^ 64 :=
    Nat.lt_of_lt_of_le (ofBigEndian_lt bs) (Nat.pow_le_pow_right (by decide) short)
  have fold := foldl_digits bs 0
  rwa [Nat.zero_mul, Nat.zero_add, Nat.mod_eq_of_lt small] at fold

/-- A sum that does not fit is behind the end of every byte string in memory. -/
theorem takeAt_eq {data : Bytes} (memory : data.length < greatest bits) (position needed : Nat) :
    takeAt bits data position needed = SwapPlan.takeAt data position needed := by
  have same : part? data position (min (position + needed) (greatest bits)) =
      data.slice? position needed := by
    unfold part? Bytes.slice?
    by_cases inside : position + needed ≤ data.length
    · have fits : min (position + needed) (greatest bits) = position + needed := by omega
      rw [fits, if_pos ⟨Nat.le_add_right _ _, inside⟩, if_pos inside, Nat.add_sub_cancel_left]
    · rw [if_neg (by omega), if_neg inside]
  cases found : data.slice? position needed with
  | none => simp only [takeAt, SwapPlan.takeAt, same, found]
  | some part => simp only [takeAt, SwapPlan.takeAt, same, found]

/-- Columns of at most four bytes that end inside the bytes are read without a trap. -/
theorem readColumns_eq (wide : 32 ≤ bits) {bytes : Bytes} (memory : bytes.length ≤ greatest bits)
    {columns : List (Column × Nat)} (narrow : ∀ c ∈ columns, c.2 ≤ 4) (position : Nat)
    (inside : position + columns.foldr (fun c size => c.2 + size) 0 ≤ bytes.length) (h : Header) :
    readColumns bits bytes columns position h =
      .ok (Header.read columns (bytes.drop position) h) := by
  induction columns generalizing position h with
  | nil => rfl
  | cons c rest ih =>
    obtain ⟨column, width⟩ := c
    rw [List.forall_mem_cons] at narrow
    simp only [List.foldr_cons] at inside
    have size : ((bytes.drop position).take width).length ≤ 4 :=
      Nat.le_trans (List.length_take_le _ _) narrow.1
    have small : ofBigEndian ((bytes.drop position).take width) < 2 ^ bits :=
      calc
        ofBigEndian ((bytes.drop position).take width) < capacity _ := ofBigEndian_lt _
        _ ≤ 2 ^ 32 := Nat.pow_le_pow_right (n := 256) (by decide) size
        _ ≤ 2 ^ bits := Nat.pow_le_pow_right (by decide) wide
    rw [readColumns, add_eq_ok (by omega), Outcome.ok_bind,
      part_eq_ok (Nat.le_add_right _ _) (by omega), Outcome.ok_bind, Nat.add_sub_cancel_left,
      number_eq (by omega), Nat.mod_eq_of_lt small, ih narrow.2 _ (by omega), Header.read,
      List.drop_drop]

theorem columns_narrow (layout : HeaderLayout) : ∀ c ∈ layout.columns, c.2 ≤ 4 := by
  cases layout <;> decide

/-- Reading a record never stops a machine of 32 bits or more, wherever it starts, and gives the same
record or the same error as with unbounded numbers. -/
theorem decodeAt_eq (wide : 32 ≤ bits) {data : Bytes} (memory : data.length < greatest bits)
    (layout : HeaderLayout) (position : Nat) :
    decodeAt bits layout data position =
      .ok ((Instruction.decodeAt layout data position).map fun i =>
        (i, position + i.recordLength)) := by
  rw [decodeAt, Instruction.decodeAt, takeAt_eq memory]
  cases header : SwapPlan.takeAt data position headerLength with
  | error e => rfl
  | ok bytes =>
    obtain ⟨stands, size⟩ := takeAt_eq_ok_iff.1 header
    have room := stands.le
    have filled := layout.sum_columns
    have fits : bytes.length ≤ greatest bits := by omega
    have columns := readColumns_eq wide fits (columns_narrow layout) Address.size (by omega) {}
    have address : part bytes 0 Address.size = .ok (bytes.take Address.size) := by
      rw [part_eq_ok (Nat.zero_le _) (by rw [size]; decide), List.drop_zero, Nat.sub_zero]
    have padding : part bytes (headerLength - paddingLength) bytes.length =
        .ok (bytes.drop (headerLength - paddingLength)) := by
      rw [part_eq_ok (by rw [size]; decide) (Nat.le_refl _), List.take_of_length_le]
      rw [List.length_drop]
    have start : add bits position headerLength = .ok (position + headerLength) :=
      add_eq_ok (by omega)
    simp only [address, columns, padding, start, Outcome.ok_bind, takeAt_eq memory]
    split
    · rfl
    split
    · rfl
    split
    · rfl
    cases body : SwapPlan.takeAt data (position + headerLength)
        (Header.read layout.columns (bytes.drop Address.size) {}).length with
    | error e => rfl
    | ok calldata =>
      obtain ⟨behind, length⟩ := takeAt_eq_ok_iff.1 body
      have reach := behind.le
      rw [Outcome.ok_bind]
      dsimp only
      generalize Positions.firstOutside? _ _ = outside
      cases outside with
      | some violated => rfl
      | none =>
        rw [add_eq_ok (by omega), Outcome.ok_bind, ← length, Nat.add_assoc]
        rfl

end SwapPlan.Machine
