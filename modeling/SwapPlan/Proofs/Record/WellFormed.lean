import SwapPlan.Proofs.Record.Machine
import SwapPlan.Proofs.Record.WireImage
/-!
# Which bytes are a record

What the bytes at a position have to be like for a record to be read there, place by place, and
which error stands for the first thing that is wrong with them (`Instruction.decodeAt_accepts`).
-/
set_option autoImplicit false

namespace SwapPlan

def Flags.definedBits : List Nat := [0, 1, 2, 3, 4, 5, 8, 9, 10, 11]

/-- The positions of a record in the order in which they are checked, each with the bit of the flag
that says that it is absent. -/
def Column.positionBits : List (Column × Nat) :=
  [(.fromAmount, 8), (.toAmount, 9), (.srcToken, 10), (.returnAmount, 11)]

namespace HeaderLayout

def place : HeaderLayout → Column → Nat × Nat
  | basic, .length => (20, 4)
  | basic, .fromAmount => (24, 2)
  | basic, .toAmount => (26, 0)
  | basic, .srcToken => (26, 2)
  | basic, .returnAmount => (28, 1)
  | basic, .special => (29, 1)
  | basic, .flags => (30, 2)
  | multiField, .length => (20, 2)
  | multiField, .toAmount => (22, 2)
  | multiField, .fromAmount => (24, 2)
  | multiField, .srcToken => (26, 2)
  | multiField, .returnAmount => (28, 0)
  | multiField, .special => (28, 2)
  | multiField, .flags => (30, 2)

variable (layout : HeaderLayout) (data : Bytes) (position : Nat)

def numberAt (column : Column) : Nat :=
  ofBigEndian ((data.drop (position + (layout.place column).1)).take (layout.place column).2)

def bitAt (bit : Nat) : Bool := (layout.numberAt data position .flags).testBit bit

def PaddedAt : Prop := ∀ k, 32 ≤ k → k < 60 → data[position + k]? = some 0

def DefinedAt : Prop := ∀ bit < 16, layout.bitAt data position bit = true → bit ∈ Flags.definedBits

def FlaggedAt : Prop :=
  layout.numberAt data position .special = 0 ∨ layout.bitAt data position 2 = true

def InsideAt (entry : Column × Nat) : Prop :=
  layout.bitAt data position entry.2 = false →
    layout.numberAt data position entry.1 < layout.numberAt data position .length

instance (entry : Column × Nat) : Decidable (layout.InsideAt data position entry) :=
  inferInstanceAs (Decidable (_ = false → _ < _))

/-- The bytes at a position are a record. -/
structure WellFormedAt : Prop where
  header : position + 60 ≤ data.length
  padded : PaddedAt data position
  defined : layout.DefinedAt data position
  flagged : layout.FlaggedAt data position
  calldata : position + 60 + layout.numberAt data position .length ≤ data.length
  inside : ∀ entry ∈ Column.positionBits, layout.InsideAt data position entry

/-- The first condition of a record that the bytes at a position violate, as an error. -/
inductive ViolatedAt : DecodeError → Prop
  | header (short : data.length < position + 60) :
      ViolatedAt (.truncated position 60 (data.length - position))
  | padded (header : position + 60 ≤ data.length) (padded : ¬PaddedAt data position) :
      ViolatedAt (.nonZeroPadding position)
  | defined {bits : BitVec 16} (header : position + 60 ≤ data.length)
      (padded : PaddedAt data position) (defined : ¬layout.DefinedAt data position)
      (undefined : ∀ bit < 16, bits.getLsbD bit =
        (layout.bitAt data position bit && !Flags.definedBits.contains bit)) :
      ViolatedAt (.undefinedFlags position bits)
  | flagged {special : UInt16} (header : position + 60 ≤ data.length)
      (padded : PaddedAt data position) (defined : layout.DefinedAt data position)
      (flagged : ¬layout.FlaggedAt data position)
      (number : special.toNat = layout.numberAt data position .special) :
      ViolatedAt (.unflaggedSpecial position special)
  | calldata (header : position + 60 ≤ data.length)
      (padded : PaddedAt data position) (defined : layout.DefinedAt data position)
      (flagged : layout.FlaggedAt data position)
      (short : data.length < position + 60 + layout.numberAt data position .length) :
      ViolatedAt (.truncated (position + 60) (layout.numberAt data position .length)
        (data.length - (position + 60)))
  | inside {front back : List (Column × Nat)} {entry : Column × Nat} {target : Address}
      {offset : UInt16} (header : position + 60 ≤ data.length)
      (padded : PaddedAt data position) (defined : layout.DefinedAt data position)
      (flagged : layout.FlaggedAt data position)
      (calldata : position + 60 + layout.numberAt data position .length ≤ data.length)
      (split : Column.positionBits = front ++ entry :: back)
      (before : ∀ earlier ∈ front, layout.InsideAt data position earlier)
      (outside : ¬layout.InsideAt data position entry)
      (address : target.bytes = (data.drop position).take 20)
      (number : offset.toNat = layout.numberAt data position entry.1) :
      ViolatedAt (.positionOutside target entry.1.name offset
        (layout.numberAt data position .length))

variable {layout data position}

theorem numberAt_lt (column : Column) (other : column ≠ .length) :
    layout.numberAt data position column < capacity 2 := by
  have narrow : (layout.place column).2 ≤ 2 := by
    cases layout <;> cases column <;> first | decide | exact absurd rfl other
  refine Nat.lt_of_lt_of_le (ofBigEndian_lt _) (Nat.pow_le_pow_right (by decide) ?_)
  exact Nat.le_trans (List.length_take_le _ _) narrow

end HeaderLayout

namespace Instruction

open HeaderLayout

variable {layout : HeaderLayout} {data bytes : Bytes} {position : Nat}

theorem get_numbers (layout : HeaderLayout) (header : (data.drop position).take 60 = bytes)
    (column : Column) :
    (numbers layout bytes).get column = layout.numberAt data position column := by
  subst header
  cases layout <;> cases column <;>
    simp [numbers, Header.read, columns, Header.set, Header.get, numberAt, place, Address.size,
      List.drop_take, List.take_take, ofBigEndian]

theorem getLsbD_headerFlags (header : (data.drop position).take 60 = bytes) {bit : Nat}
    (small : bit < 16) :
    (headerFlags layout bytes).bits.getLsbD bit = layout.bitAt data position bit := by
  have flags := get_numbers layout header .flags
  rw [headerFlags, Flags.ofNat, BitVec.getLsbD_ofNat, bitAt, ← flags]
  simp [small, Header.get]

theorem padding_iff (room : position + 60 ≤ data.length)
    (header : (data.drop position).take 60 = bytes) :
    (bytes.drop (headerLength - paddingLength)).any (· ≠ 0) = true ↔ ¬PaddedAt data position := by
  have byte (k : Nat) (small : k < 28) :
      (bytes.drop (headerLength - paddingLength))[k]? = data[position + (32 + k)]? := by
    have inside : 32 + k < 60 := by omega
    rw [← header, List.getElem?_drop, headerLength, paddingLength, List.getElem?_take_of_lt inside,
      List.getElem?_drop]
  have size : (bytes.drop (headerLength - paddingLength)).length = 28 := by
    rw [← header, headerLength, paddingLength, List.length_drop, List.length_take, List.length_drop]
    omega
  rw [← not_iff_not, Classical.not_not, Bool.not_eq_true, List.any_eq_false]
  constructor
  · intro zero k first last
    obtain ⟨j, rfl⟩ := Nat.exists_eq_add_of_le first
    have here : j < (bytes.drop (headerLength - paddingLength)).length := by omega
    have value := zero _ (List.getElem_mem here)
    rw [← byte j (by omega), List.getElem?_eq_getElem here]
    simpa using value
  · intro padded b mem
    obtain ⟨j, here, rfl⟩ := List.mem_iff_getElem.1 mem
    have value := padded (32 + j) (by omega) (by omega)
    rw [← byte j (by omega), List.getElem?_eq_getElem here] at value
    simpa using value

end Instruction

theorem Flags.getLsbD_undefinedBits (f : Flags) {bit : Nat} (small : bit < 16) :
    f.undefinedBits.getLsbD bit = (f.bits.getLsbD bit && !definedBits.contains bit) := by
  have mask : (~~~defined).getLsbD bit = !definedBits.contains bit := by
    interval_cases bit <;> rfl
  rw [undefinedBits, BitVec.getLsbD_and, mask]

theorem Flags.hasUndefined_iff (f : Flags) :
    f.hasUndefined = true ↔ ¬∀ bit < 16, f.bits.getLsbD bit = true → bit ∈ definedBits := by
  rw [hasUndefined, decide_eq_true_iff, not_iff_not]
  constructor
  · intro none bit small set
    have cleared := congrArg (·.getLsbD bit) none
    simp only [f.getLsbD_undefinedBits small, set, Bool.true_and] at cleared
    simpa using cleared
  · intro within
    apply BitVec.eq_of_getLsbD_eq
    intro bit small
    rw [f.getLsbD_undefinedBits small]
    cases set : f.bits.getLsbD bit with
    | false => simp
    | true => simpa using within bit small set

namespace Instruction

open HeaderLayout

variable {layout : HeaderLayout} {data bytes : Bytes} {position : Nat}

theorem undefined_iff (header : (data.drop position).take 60 = bytes) :
    (headerFlags layout bytes).hasUndefined = true ↔ ¬layout.DefinedAt data position := by
  rw [Flags.hasUndefined_iff, not_iff_not, DefinedAt]
  refine forall₂_congr fun bit small => ?_
  rw [getLsbD_headerFlags header small]

theorem unflagged_iff (header : (data.drop position).take 60 = bytes) :
    (UInt16.ofNat (numbers layout bytes).special ≠ 0 ∧
      ¬(headerFlags layout bytes).contains .specialExchange = true) ↔
      ¬layout.FlaggedAt data position := by
  have number : (numbers layout bytes).special = layout.numberAt data position .special :=
    get_numbers layout header .special
  have zero : UInt16.ofNat (numbers layout bytes).special = 0 ↔
      layout.numberAt data position .special = 0 := by
    have small : layout.numberAt data position .special < capacity 2 :=
      numberAt_lt .special (by decide)
    rw [number, ← UInt16.toNat_inj, UInt16.toNat_ofNat_of_lt' small]
    rfl
  have flag : (headerFlags layout bytes).contains .specialExchange =
      layout.bitAt data position 2 :=
    (Flags.contains_single _ (show 2 < 16 by decide)).trans (getLsbD_headerFlags header (by decide))
  rw [FlaggedAt, flag, Ne, zero, not_or]

theorem named_headerPositions (header : (data.drop position).take 60 = bytes) :
    (headerPositions layout bytes).named = Column.positionBits.map fun entry =>
      (entry.1.name, if layout.bitAt data position entry.2 then none
        else some (UInt16.ofNat (layout.numberAt data position entry.1))) := by
  have kept (bit : Nat) (small : bit < 16) (offset : UInt16) :
      (headerFlags layout bytes).keep (.single bit) offset =
        if layout.bitAt data position bit then none else some offset := by
    rw [Flags.keep, Flags.contains_single _ small, getLsbD_headerFlags header small]
  have number (column : Column) := get_numbers layout header column
  simp only [headerPositions, Flags.positions, Positions.named, Column.positionBits, List.map,
    Column.name, ← number, Header.get]
  rw [← kept 8 (by decide), ← kept 9 (by decide), ← kept 10 (by decide), ← kept 11 (by decide)]
  rfl

theorem report_position {entry : Column × Nat} (mem : entry ∈ Column.positionBits)
    {length : Nat} (same : length = layout.numberAt data position .length) :
    ((if layout.bitAt data position entry.2 then none
        else some (UInt16.ofNat (layout.numberAt data position entry.1))).bind fun offset =>
      if length ≤ offset.toNat then some (entry.1.name, offset) else none) =
      if layout.InsideAt data position entry then none
      else some (entry.1.name, UInt16.ofNat (layout.numberAt data position entry.1)) := by
  have other : ∀ entry ∈ Column.positionBits, entry.1 ≠ .length := by decide
  have number : (UInt16.ofNat (layout.numberAt data position entry.1)).toNat =
      layout.numberAt data position entry.1 :=
    UInt16.toNat_ofNat_of_lt' (numberAt_lt entry.1 (other entry mem))
  rw [same]
  cases absent : layout.bitAt data position entry.2 with
  | true => simp [InsideAt, absent]
  | false =>
    simp only [InsideAt, absent, Bool.false_eq_true, if_false, Option.bind_some, number,
      forall_const, ← Nat.not_lt, ite_not]

theorem firstOutside?_eq_some_iff (header : (data.drop position).take 60 = bytes) {name : String}
    {offset : UInt16} :
    (headerPositions layout bytes).firstOutside? (numbers layout bytes).length = some (name, offset) ↔
      ∃ front entry back, Column.positionBits = front ++ entry :: back ∧
        (∀ earlier ∈ front, layout.InsideAt data position earlier) ∧
        ¬layout.InsideAt data position entry ∧ name = entry.1.name ∧
        offset = UInt16.ofNat (layout.numberAt data position entry.1) := by
  have length : (numbers layout bytes).length = layout.numberAt data position .length :=
    get_numbers layout header .length
  rw [Positions.firstOutside?, named_headerPositions header, List.findSome?_map,
    List.findSome?_eq_some_iff]
  refine exists_congr fun front => exists_congr fun entry => exists_congr fun back =>
    and_congr_right fun split => ?_
  have report {e : Column × Nat} (mem : e ∈ front ++ entry :: back) :=
    report_position (split ▸ mem) length
  simp only [Function.comp_apply]
  rw [report (by simp), and_comm]
  refine and_congr ?_ ?_
  · refine forall₂_congr fun earlier mem => ?_
    rw [report (List.mem_append_left _ mem)]
    simp
  · rw [Option.ite_none_left_eq_some, Option.some.injEq, Prod.mk.injEq, eq_comm (a := name),
      eq_comm (a := offset)]

theorem firstOutside?_eq_none_iff (header : (data.drop position).take 60 = bytes) :
    (headerPositions layout bytes).firstOutside? (numbers layout bytes).length = none ↔
      ∀ entry ∈ Column.positionBits, layout.InsideAt data position entry := by
  have length : (numbers layout bytes).length = layout.numberAt data position .length :=
    get_numbers layout header .length
  rw [Positions.firstOutside?, named_headerPositions header, List.findSome?_map,
    List.findSome?_eq_none_iff]
  refine forall₂_congr fun entry mem => ?_
  simp only [Function.comp_apply]
  rw [report_position mem length]
  simp

/-- The checks of the reader, one after the other, where there is a whole header. -/
theorem decodeAt_eq_of_header (room : position + 60 ≤ data.length)
    (header : (data.drop position).take 60 = bytes) :
    decodeAt layout data position =
      if (bytes.drop (headerLength - paddingLength)).any (· ≠ 0) then
        .error (.nonZeroPadding position)
      else if (headerFlags layout bytes).hasUndefined then
        .error (.undefinedFlags position (headerFlags layout bytes).undefinedBits)
      else if UInt16.ofNat (numbers layout bytes).special ≠ 0 ∧
          ¬(headerFlags layout bytes).contains .specialExchange = true then
        .error (.unflaggedSpecial position (UInt16.ofNat (numbers layout bytes).special))
      else
        takeAt data (position + 60) (numbers layout bytes).length >>= fun calldata =>
          match (headerPositions layout bytes).firstOutside? (numbers layout bytes).length with
          | some (name, offset) =>
            .error (.positionOutside (.ofPrefix (bytes.take 20)) name offset
              (numbers layout bytes).length)
          | none => .ok (ofHeader layout bytes calldata) := by
  have whole : position + headerLength ≤ data.length := room
  subst header
  rw [decodeAt, takeAt_of_le whole, Outcome.ok_bind]
  rfl

theorem decodeAt_eq_of_flagged (room : position + 60 ≤ data.length)
    (header : (data.drop position).take 60 = bytes) (padded : PaddedAt data position)
    (defined : layout.DefinedAt data position) (flagged : layout.FlaggedAt data position) :
    decodeAt layout data position =
      takeAt data (position + 60) (numbers layout bytes).length >>= fun calldata =>
        match (headerPositions layout bytes).firstOutside? (numbers layout bytes).length with
        | some (name, offset) =>
          .error (.positionOutside (.ofPrefix (bytes.take 20)) name offset
            (numbers layout bytes).length)
        | none => .ok (ofHeader layout bytes calldata) := by
  rw [decodeAt_eq_of_header room header, if_neg, if_neg, if_neg]
  · rw [unflagged_iff header]
    exact not_not_intro flagged
  · rw [undefined_iff header]
    exact not_not_intro defined
  · rw [padding_iff room header]
    exact not_not_intro padded

theorem decodeAt_of_violatedAt {e : DecodeError} (violated : layout.ViolatedAt data position e) :
    decodeAt layout data position = .error e := by
  have length : (numbers layout ((data.drop position).take 60)).length =
      layout.numberAt data position .length := get_numbers layout rfl .length
  cases violated with
  | header short =>
    have cut : data.length < position + headerLength := short
    rw [decodeAt, takeAt_of_lt cut]
    rfl
  | padded room padded =>
    rw [decodeAt_eq_of_header room rfl, if_pos ((padding_iff room rfl).2 padded)]
  | defined room padded defined undefined =>
    rw [decodeAt_eq_of_header room rfl, if_neg (mt (padding_iff room rfl).1 (not_not_intro padded)),
      if_pos ((undefined_iff rfl).2 defined)]
    congr 2
    apply BitVec.eq_of_getLsbD_eq
    intro bit small
    rw [Flags.getLsbD_undefinedBits _ small, getLsbD_headerFlags rfl small, undefined bit small]
  | flagged room padded defined flagged number =>
    have special : (numbers layout ((data.drop position).take 60)).special =
        layout.numberAt data position .special := get_numbers layout rfl .special
    rw [decodeAt_eq_of_header room rfl, if_neg (mt (padding_iff room rfl).1 (not_not_intro padded)),
      if_neg (mt (undefined_iff rfl).1 (not_not_intro defined)),
      if_pos ((unflagged_iff rfl).2 flagged), special, ← number, UInt16.ofNat_toNat]
  | calldata room padded defined flagged short =>
    rw [decodeAt_eq_of_flagged room rfl padded defined flagged, length, takeAt_of_lt short]
    rfl
  | @inside front back entry target offset room padded defined flagged calldata split before outside
      address number =>
    have found := (firstOutside?_eq_some_iff rfl).2
      ⟨front, entry, back, split, before, outside, rfl, rfl⟩
    have whole : ((data.drop position).take 60).take 20 = target.bytes := by
      rw [address, List.take_take]
      rfl
    rw [decodeAt_eq_of_flagged room rfl padded defined flagged, found, length,
      takeAt_of_le calldata, Outcome.ok_bind, whole, Address.ofPrefix_bytes, ← number,
      UInt16.ofNat_toNat]

theorem exists_decodeAt_of_wellFormedAt (h : layout.WellFormedAt data position) :
    ∃ i, decodeAt layout data position = .ok i := by
  have length : (numbers layout ((data.drop position).take 60)).length =
      layout.numberAt data position .length := get_numbers layout rfl .length
  have inside := (firstOutside?_eq_none_iff rfl).2 h.inside
  rw [decodeAt_eq_of_flagged h.header rfl h.padded h.defined h.flagged, inside, length,
    takeAt_of_le h.calldata]
  exact ⟨_, rfl⟩

theorem exists_violatedAt (h : ¬layout.WellFormedAt data position) :
    ∃ e, layout.ViolatedAt data position e := by
  by_cases room : position + 60 ≤ data.length
  swap
  · exact ⟨_, .header (Nat.lt_of_not_le room)⟩
  by_cases padded : PaddedAt data position
  swap
  · exact ⟨_, .padded room padded⟩
  by_cases defined : layout.DefinedAt data position
  swap
  · let flags := headerFlags layout ((data.drop position).take 60)
    refine ⟨.undefinedFlags position flags.undefinedBits,
      .defined room padded defined fun bit small => ?_⟩
    rw [Flags.getLsbD_undefinedBits _ small, getLsbD_headerFlags rfl small]
  by_cases flagged : layout.FlaggedAt data position
  swap
  · exact ⟨_, .flagged room padded defined flagged
      (UInt16.toNat_ofNat_of_lt' (numberAt_lt .special (by decide)))⟩
  by_cases calldata : position + 60 + layout.numberAt data position .length ≤ data.length
  swap
  · exact ⟨_, .calldata room padded defined flagged (Nat.lt_of_not_le calldata)⟩
  have outside : ¬∀ entry ∈ Column.positionBits, layout.InsideAt data position entry :=
    fun inside => h ⟨room, padded, defined, flagged, calldata, inside⟩
  rw [← firstOutside?_eq_none_iff rfl, ← Ne, Option.ne_none_iff_exists'] at outside
  obtain ⟨⟨name, offset⟩, found⟩ := outside
  obtain ⟨front, entry, back, split, before, violated, rfl, rfl⟩ :=
    (firstOutside?_eq_some_iff rfl).1 found
  have size : ((data.drop position).take 20).length = 20 := by
    rw [List.length_take, List.length_drop]
    omega
  have other : ∀ entry ∈ Column.positionBits, entry.1 ≠ .length := by decide
  have small := other entry (by rw [split]; simp)
  exact ⟨.positionOutside ⟨_, size⟩ _ _ _,
    .inside room padded defined flagged calldata split before violated rfl (UInt16.toNat_ofNat_of_lt' (numberAt_lt _ small))⟩

/-- A record is read exactly where the bytes are one, and otherwise the error is the first condition
that they violate.  On a machine with numbers of 32 bits or more the reader comes to the same end,
wherever it starts and whatever the bytes are, as long as they fit into its memory. -/
theorem decodeAt_accepts (layout : HeaderLayout) (data : Bytes) (position : Nat) :
    ((∃ i, decodeAt layout data position = .ok i) ↔ layout.WellFormedAt data position) ∧
    (∀ e, decodeAt layout data position = .error e ↔ layout.ViolatedAt data position e) ∧
    (∀ bits, 32 ≤ bits → data.length < Machine.greatest bits →
      Machine.decodeAt bits layout data position =
        .ok ((decodeAt layout data position).map fun i => (i, position + i.recordLength))) := by
  have exclusive {i : Instruction} {e : DecodeError} (read : decodeAt layout data position = .ok i)
      (violated : layout.ViolatedAt data position e) : False := by
    rw [decodeAt_of_violatedAt violated] at read
    cases read
  refine ⟨⟨?_, exists_decodeAt_of_wellFormedAt⟩, fun e => ⟨?_, decodeAt_of_violatedAt⟩,
    fun bits wide memory => Machine.decodeAt_eq wide memory layout position⟩
  · rintro ⟨i, read⟩
    by_contra ill
    obtain ⟨e, violated⟩ := exists_violatedAt ill
    exact exclusive read violated
  · intro failed
    by_cases well : layout.WellFormedAt data position
    · obtain ⟨i, read⟩ := exists_decodeAt_of_wellFormedAt well
      rw [failed] at read
      cases read
    · obtain ⟨cause, violated⟩ := exists_violatedAt well
      have same := decodeAt_of_violatedAt violated
      rw [failed] at same
      cases same
      exact violated

/-- A header without calldata.  The basic layout has no column for the bound on the output; it is a
record only if the flags say that this position is absent. -/
theorem decodeAt_accepts_empty :
    let head (flags : UInt8) : Bytes :=
      List.replicate 20 0x11 ++ [0, 0, 0, 0, 0, 0, 0, 0, 0, 0, flags, 0] ++ List.replicate 28 0
    let outside : DecodeError := .positionOutside (.repeated 0x11) "toAmount" 0 0
    HeaderLayout.basic.WellFormedAt (head 0x0F) 0 ∧
      HeaderLayout.basic.ViolatedAt (head 0x0D) 0 outside ∧
      Machine.decodeAt 64 .basic (head 0x0D) 0 = .ok (.error outside) ∧
      Machine.decodeAt 64 .basic (head 0x0D) (2 ^ 64 - 1) =
        .ok (.error (.truncated (2 ^ 64 - 1) 60 0)) := by
  intro head outside
  have size : (head 0x0D).length = 60 := rfl
  have read : decodeAt .basic (head 0x0F) 0 =
      .ok ⟨.repeated 0x11, .none, none, ⟨0x0F00⟩, []⟩ := by decide
  have failed : decodeAt .basic (head 0x0D) 0 = .error outside := by decide
  have behind : decodeAt .basic (head 0x0D) (2 ^ 64 - 1) =
      .error (.truncated (2 ^ 64 - 1) 60 0) := by
    rw [decodeAt, takeAt_of_lt (by rw [size]; decide), size]
    rfl
  have memory : (head 0x0D).length < Machine.greatest 64 := by
    rw [size]
    decide
  have here := decodeAt_accepts .basic (head 0x0D) 0
  have far := decodeAt_accepts .basic (head 0x0D) (2 ^ 64 - 1)
  refine ⟨(decodeAt_accepts .basic (head 0x0F) 0).1.1 ⟨_, read⟩, (here.2.1 outside).1 failed, ?_, ?_⟩
  · rw [here.2.2 64 (by decide) memory, failed]
    rfl
  · rw [far.2.2 64 (by decide) memory, behind]
    rfl

end Instruction
end SwapPlan
