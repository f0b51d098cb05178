import SwapPlan.Proofs.Outcome
import SwapPlan.Proofs.Record.FlagBits
import SwapPlan.Proofs.Substring
import SwapPlan.Record.Encoding
/-!
# Reading back what was written

A record read where it stands, whatever surrounds it, gives the instruction it was written from as
its layout carries it.
-/
set_option autoImplicit false

namespace SwapPlan

namespace Header

def image (h : Header) (columns : List (Column × Nat)) : Bytes :=
  columns.flatMap fun c => bigEndian c.2 (h.get c.1)

def merge (h : Header) (columns : List (Column × Nat)) (g : Header) : Header :=
  columns.foldl (fun g c => g.set c.1 (h.get c.1)) g

theorem length_image (h : Header) (columns : List (Column × Nat)) :
    (h.image columns).length = columns.foldr (fun c size => c.2 + size) 0 := by
  simp [image, List.length_flatMap, List.sum_eq_foldr, List.foldr_map]

theorem write_eq_ok_iff {h : Header} {columns : List (Column × Nat)} {bytes : Bytes} :
    h.write columns = .ok bytes ↔
      (∀ c ∈ columns, h.get c.1 < capacity c.2) ∧ bytes = h.image columns := by
  induction columns generalizing bytes with
  | nil => simp [write, image, eq_comm]
  | cons c rest ih =>
    obtain ⟨column, width⟩ := c
    rw [write]
    split
    · rename_i fits
      simp only [Outcome.map_eq_ok, ih, List.forall_mem_cons, fits, true_and]
      constructor
      · rintro ⟨_, ⟨all, rfl⟩, rfl⟩
        exact ⟨all, rfl⟩
      · rintro ⟨all, rfl⟩
        exact ⟨_, ⟨all, rfl⟩, rfl⟩
    · rename_i large
      simp only [List.forall_mem_cons, large, false_and, reduceCtorEq]

theorem read_image {h : Header} {columns : List (Column × Nat)}
    (fits : ∀ c ∈ columns, h.get c.1 < capacity c.2) (rest : Bytes) (g : Header) :
    read columns (h.image columns ++ rest) g = h.merge columns g := by
  induction columns generalizing g with
  | nil => rfl
  | cons c columns ih =>
    obtain ⟨column, width⟩ := c
    rw [List.forall_mem_cons] at fits
    have first : image h ((column, width) :: columns) ++ rest =
        bigEndian width (h.get column) ++ (h.image columns ++ rest) := by
      simp [image]
    have number : ofBigEndian (bigEndian width (h.get column)) = h.get column := by
      rw [ofBigEndian_bigEndian, Nat.mod_eq_of_lt fits.1]
    rw [first, read, List.take_left' (length_bigEndian _ _), List.drop_left' (length_bigEndian _ _),
      number, ih fits.2]
    rfl

end Header

def HeaderLayout.kept : HeaderLayout → Positions → Positions
  | basic, p => { p with toAmount := none }
  | multiField, p => { p with returnAmount := none }

theorem HeaderLayout.restrict_eq_kept (layout : HeaderLayout) (p : Positions) :
    layout.restrict p = layout.kept p := by
  cases layout <;> rfl

theorem Positions.firstOutside?_eq_none_iff {p : Positions} {length : Nat} :
    p.firstOutside? length = .none ↔
      ∀ entry ∈ p.named, ∀ offset, entry.2 = some offset → offset.toNat < length := by
  rw [firstOutside?, List.findSome?_eq_none_iff]
  apply forall₂_congr
  rintro ⟨name, position⟩ _
  cases position <;> simp

theorem HeaderLayout.firstOutside?_restrict (layout : HeaderLayout) {p : Positions} {length : Nat}
    (inside : ∀ entry ∈ p.named, ∀ offset, entry.2 = some offset → offset.toNat < length) :
    (layout.restrict p).firstOutside? length = .none := by
  rw [Positions.firstOutside?_eq_none_iff, layout.restrict_eq_kept]
  cases layout <;> simp_all [kept, Positions.named]

def HeaderLayout.lengthBits : HeaderLayout → Nat
  | basic => 32
  | multiField => 16

namespace Instruction

/-- What is left of an instruction when it has been written and read back: the positions of the
layout, and the flags with those on the special handler and on absent positions put right. -/
def normalForm (i : Instruction) (layout : HeaderLayout) : Instruction where
  target := i.target
  positions := layout.kept i.positions
  special := i.special
  flags := (i.flags.without .carriage).union
    (.ofConditions ((.specialExchange, i.special.isSome)
      :: Flags.absences (layout.kept i.positions)))
  calldata := i.calldata

theorem carried_eq_normalForm (i : Instruction) (layout : HeaderLayout) :
    i.carried layout = i.normalForm layout := by
  rw [carried, normalForm, layout.restrict_eq_kept, Flags.set_markAbsent]

def image (i : Instruction) (layout : HeaderLayout) : Bytes :=
  i.target.bytes ++ (i.carried layout).header.image layout.columns
    ++ List.replicate paddingLength 0 ++ i.calldata

/-- An instruction has a record exactly if the positions that the layout keeps are inside the
calldata and the numbers fit their columns. -/
theorem encode_eq_ok_iff {i : Instruction} {layout : HeaderLayout} {r : Record} :
    i.encode layout = .ok r ↔
      (layout.restrict i.positions).firstOutside? i.calldata.length = none ∧
      (∀ c ∈ layout.columns, (i.carried layout).header.get c.1 < capacity c.2) ∧
      r = ⟨layout, i.image layout⟩ := by
  have positions : (i.carried layout).positions = layout.restrict i.positions := rfl
  rw [encode]
  simp only [positions]
  cases (layout.restrict i.positions).firstOutside? i.calldata.length with
  | some outside => simp
  | none =>
    simp only [Outcome.map_eq_ok, Header.write_eq_ok_iff, true_and]
    constructor
    · rintro ⟨_, ⟨fits, rfl⟩, rfl⟩
      exact ⟨fits, rfl⟩
    · rintro ⟨fits, rfl⟩
      exact ⟨_, ⟨fits, rfl⟩, rfl⟩

def Narrow (i : Instruction) (layout : HeaderLayout) : Prop :=
  i.calldata.length < 2 ^ layout.lengthBits ∧
  (layout = .basic → number i.positions.returnAmount ≤ 255 ∧ number i.special ≤ 255)

theorem number_lt (n : Option UInt16) : number n < capacity 2 := (n.getD 0).toNat_lt

theorem narrow_iff {i : Instruction} {layout : HeaderLayout} :
    i.Narrow layout ↔ ∀ c ∈ layout.columns, (i.carried layout).header.get c.1 < capacity c.2 := by
  have flags : (i.carried layout).flags.bits.toNat < capacity 2 := BitVec.isLt _
  have byte (n : Option UInt16) : number n ≤ 255 ↔ number n < capacity 1 := Nat.lt_succ_iff.symm
  cases layout with
  | basic =>
    rw [Narrow, byte, byte]
    simp only [HeaderLayout.columns, List.forall_mem_cons]
    constructor
    · rintro ⟨short, numbers⟩
      obtain ⟨returned, special⟩ := numbers trivial
      exact ⟨short, number_lt _, number_lt _, returned, special, flags,
        List.forall_mem_nil _⟩
    · rintro ⟨short, _, _, returned, special, _⟩
      exact ⟨short, fun _ => ⟨returned, special⟩⟩
  | multiField =>
    simp only [Narrow, HeaderLayout.columns, List.forall_mem_cons]
    constructor
    · rintro ⟨short, _⟩
      exact ⟨short, number_lt _, number_lt _, number_lt _, number_lt _, flags,
        List.forall_mem_nil _⟩
    · intro fits
      refine ⟨fits.1, fun basic => ?_⟩
      cases basic

/-- Short calldata around its positions has a record in every layout, if the numbers fit a byte that
the basic layout keeps in one. -/
theorem exists_encode {i : Instruction} {layout : HeaderLayout}
    (inside : (layout.restrict i.positions).firstOutside? i.calldata.length = none)
    (short : i.calldata.length < 2 ^ 16) (returned : number i.positions.returnAmount < 2 ^ 8)
    (special : number i.special < 2 ^ 8) : ∃ r, i.encode layout = .ok r := by
  have wide : i.calldata.length < 2 ^ layout.lengthBits := by
    cases layout with
    | basic => exact Nat.lt_trans short (by decide)
    | multiField => exact short
  have narrow : i.Narrow layout :=
    ⟨wide, fun _ => ⟨Nat.le_of_lt_succ returned, Nat.le_of_lt_succ special⟩⟩
  exact ⟨_, encode_eq_ok_iff.2 ⟨inside, narrow_iff.1 narrow, rfl⟩⟩

/-- The header of an instruction as its layout carries it is zero where the layout has no column. -/
theorem merge_columns (i : Instruction) (layout : HeaderLayout) :
    (i.carried layout).header.merge layout.columns {} = (i.carried layout).header := by
  cases layout <;> rfl

def headerImage (i : Instruction) (layout : HeaderLayout) : Bytes :=
  i.target.bytes ++ (i.carried layout).header.image layout.columns
    ++ List.replicate paddingLength 0

theorem length_headerImage (i : Instruction) (layout : HeaderLayout) :
    (i.headerImage layout).length = headerLength := by
  simp only [headerImage, List.length_append, i.target.length_bytes, Header.length_image,
    List.length_replicate]
  exact layout.sum_columns

theorem length_image (i : Instruction) (layout : HeaderLayout) :
    (i.image layout).length = i.recordLength := by
  rw [image, ← headerImage, List.length_append, length_headerImage, recordLength]

theorem parts_of_encode {i : Instruction} {layout : HeaderLayout} {r : Record}
    (h : i.encode layout = .ok r) : r.header = i.headerImage layout ∧ r.calldata = i.calldata := by
  obtain ⟨_, _, rfl⟩ := encode_eq_ok_iff.1 h
  rw [Record.header, Record.calldata, image, ← headerImage]
  exact ⟨List.take_left' (length_headerImage i layout), List.drop_left' (length_headerImage i layout)⟩

theorem length_lt_of_encode {i : Instruction} {layout : HeaderLayout} {r : Record}
    (h : i.encode layout = .ok r) : i.calldata.length < 2 ^ 256 := by
  obtain ⟨_, fits, _⟩ := encode_eq_ok_iff.1 h
  refine Nat.lt_trans (narrow_iff.2 fits).1 ?_
  cases layout <;> decide

/-- The header announces the length of the calldata, and otherwise does not depend on it. -/
theorem headerImage_calldata {i : Instruction} {layout : HeaderLayout} {bytes : Bytes}
    (length : bytes.length = i.calldata.length) :
    ({ i with calldata := bytes } : Instruction).headerImage layout = i.headerImage layout := by
  simp only [headerImage, carried, Instruction.header, length]

theorem image_overwrite {i : Instruction} {layout : HeaderLayout} {offset : Nat} {part : Bytes}
    (inside : offset + part.length ≤ i.calldata.length) :
    ({ i with calldata := i.calldata.overwrite offset part } : Instruction).image layout =
      (i.image layout).overwrite (headerLength + offset) part := by
  have whole := Bytes.overwrite_part (i.headerImage layout) [] inside
  rw [length_headerImage, List.append_nil, List.append_nil] at whole
  rw [image, ← headerImage, headerImage_calldata (Bytes.length_overwrite inside), image,
    ← headerImage, whole]

theorem takeAt_append (before part after : Bytes) :
    takeAt (before ++ part ++ after) before.length part.length = .ok part := by
  rw [takeAt, Bytes.slice?_append]

/-- A record is read where it stands.  Only a flag that is not defined makes the reader refuse it. -/
theorem decodeAt_image {i : Instruction} {layout : HeaderLayout}
    (inside : (layout.restrict i.positions).firstOutside? i.calldata.length = none)
    (fits : ∀ c ∈ layout.columns, (i.carried layout).header.get c.1 < capacity c.2)
    (before after : Bytes) :
    decodeAt layout (before ++ i.image layout ++ after) before.length =
      if i.flags.hasUndefined then .error (.undefinedFlags before.length i.flags.undefinedBits)
      else .ok (i.carried layout) := by
  -- The parts of the record as the reader takes them, and then the fields of its header.
  have header : takeAt (before ++ i.image layout ++ after) before.length headerLength =
      .ok (i.headerImage layout) := by
    rw [image, ← headerImage, ← length_headerImage i layout]
    simpa using takeAt_append before (i.headerImage layout) (i.calldata ++ after)
  have calldata : takeAt (before ++ i.image layout ++ after) (before.length + headerLength)
      i.calldata.length = .ok i.calldata := by
    rw [image, ← headerImage, ← length_headerImage i layout, ← List.length_append,
      ← List.append_assoc before]
    exact takeAt_append (before ++ i.headerImage layout) i.calldata after
  have size : i.target.bytes.length = Address.size := i.target.length_bytes
  have target : Address.ofPrefix ((i.headerImage layout).take Address.size) = i.target := by
    rw [headerImage, List.append_assoc, List.take_left' size, Address.ofPrefix_bytes]
  have columns : Header.read layout.columns ((i.headerImage layout).drop Address.size) {} =
      (i.carried layout).header := by
    rw [headerImage, List.append_assoc, List.drop_left' size, Header.read_image fits,
      merge_columns]
  have padding : (i.headerImage layout).drop (headerLength - paddingLength) =
      List.replicate paddingLength 0 := by
    rw [headerImage, List.drop_left']
    rw [List.length_append, size, Header.length_image, ← layout.sum_columns, Nat.add_sub_cancel]
  have flags : Flags.ofNat (i.carried layout).header.flags = (i.carried layout).flags := by
    simp [Flags.ofNat, Instruction.header]
  have undefined : (i.carried layout).flags.undefinedBits = i.flags.undefinedBits :=
    Flags.undefinedBits_set_markAbsent _ _ _
  have flagged : (i.carried layout).flags.contains .specialExchange = i.special.isSome :=
    (Flags.contains_set (by decide) (by decide) _ _).trans (if_pos rfl)
  have special : UInt16.ofNat (i.carried layout).header.special = i.special.getD 0 :=
    UInt16.ofNat_toNat
  have positions : (i.carried layout).flags.positions
      (UInt16.ofNat (i.carried layout).header.fromAmount)
      (UInt16.ofNat (i.carried layout).header.toAmount)
      (UInt16.ofNat (i.carried layout).header.srcToken)
      (UInt16.ofNat (i.carried layout).header.returnAmount) = layout.restrict i.positions := by
    simp only [Instruction.header, number, UInt16.ofNat_toNat]
    exact Flags.positions_set_markAbsent _ _ _
  have length : (i.carried layout).header.length = i.calldata.length := rfl
  have marked : ¬(i.special.getD 0 ≠ 0 ∧ ¬i.special.isSome = true) := by
    cases i.special <;> simp
  have handler : (if i.special.isSome = true then some (i.special.getD 0) else none) =
      i.special := by
    cases i.special <;> rfl
  simp only [decodeAt, header, Outcome.ok_bind, target, columns, padding, flags, undefined,
    Flags.hasUndefined, flagged, special, positions, length, calldata, if_neg marked, handler,
    inside]
  simp [carried]

/-- A record that is written reads back as the normal form of its instruction, whatever stands
before and after it, and the next record starts where it ends.  An undefined flag is refused. -/
theorem decodeAt_encode {i : Instruction} {layout : HeaderLayout} {r : Record}
    (h : i.encode layout = .ok r) (before after : Bytes) :
    (i.flags.hasUndefined = false →
      decodeAt layout (before ++ r.bytes ++ after) before.length = .ok (i.normalForm layout) ∧
      before.length + (i.normalForm layout).recordLength = before.length + r.bytes.length) ∧
    (∀ bits, decodeAt layout (before ++ r.bytes ++ after) before.length =
        .error (.undefinedFlags before.length bits) ↔
      i.flags.hasUndefined = true ∧ bits = i.flags.undefinedBits) := by
  obtain ⟨inside, fits, rfl⟩ := encode_eq_ok_iff.1 h
  simp only [decodeAt_image inside fits, carried_eq_normalForm]
  constructor
  · intro defined
    refine ⟨by simp [defined], ?_⟩
    rw [length_image]
    rfl
  · intro bits
    cases i.flags.hasUndefined <;> simp [eq_comm]

/-- Stale flags, a position at zero that is present, and a special handler of number zero. -/
theorem decodeAt_encode_stale :
    let i : Instruction :=
      ⟨.repeated 0x11, ⟨some 0, some 4, none, some 2⟩, some 0, ⟨0x0B01⟩, [1, 2, 3, 4, 5]⟩
    ∃ r : Record, i.encode .multiField = .ok r ∧ i.flags.hasUndefined = false ∧
      decodeAt .multiField ([9, 9] ++ r.bytes ++ [7]) 2 =
        .ok ⟨.repeated 0x11, ⟨some 0, some 4, none, none⟩, some 0, ⟨0x0C05⟩, [1, 2, 3, 4, 5]⟩ := by
  intro i
  have written : i.encode .multiField = .ok ⟨.multiField, i.image .multiField⟩ :=
    encode_eq_ok_iff.2 ⟨by decide, by decide, rfl⟩
  have defined : i.flags.hasUndefined = false := by decide
  have normal : i.normalForm .multiField =
      ⟨.repeated 0x11, ⟨some 0, some 4, none, none⟩, some 0, ⟨0x0C05⟩, [1, 2, 3, 4, 5]⟩ := by
    decide
  have read := ((decodeAt_encode written [9, 9] [7]).1 defined).1
  rw [normal] at read
  exact ⟨_, written, defined, read⟩

end Instruction

/-- A record that was written from an instruction with defined flags and reads back as `i`. -/
def Record.Carries (layout : HeaderLayout) (r : Record) (i : Instruction) : Prop :=
  ∃ written : Instruction, written.encode layout = .ok r ∧
    written.flags.hasUndefined = false ∧ i = written.normalForm layout

theorem Record.Carries.decodeAt {layout : HeaderLayout} {r : Record} {i : Instruction}
    (h : r.Carries layout i) : Instruction.decodeAt layout r.bytes 0 = .ok i := by
  obtain ⟨written, encoded, defined, rfl⟩ := h
  obtain ⟨inside, fits, rfl⟩ := Instruction.encode_eq_ok_iff.1 encoded
  have read := Instruction.decodeAt_image inside fits [] []
  rw [List.nil_append, List.append_nil, List.length_nil, if_neg (by simp [defined]),
    Instruction.carried_eq_normalForm] at read
  exact read

end SwapPlan
