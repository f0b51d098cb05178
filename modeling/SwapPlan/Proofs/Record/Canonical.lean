import SwapPlan.Proofs.Record.Headers
import SwapPlan.Proofs.Record.RoundTrip
/-!
# Writing back what was read

The reader takes more than the writer writes: the offset of a position that is flagged absent may be
anything, and the position for which a layout has no column need not be flagged.  A record that was
read is written back with both put right and is otherwise the same (`Instruction.encode_decodeAt`).
-/
set_option autoImplicit false

namespace SwapPlan

def Column.absence? : Column → Option Flags
  | fromAmount => some .fromAmountAbsent
  | toAmount => some .toAmountAbsent
  | srcToken => some .srcTokenAbsent
  | returnAmount => some .returnAmountAbsent
  | _ => none

/-- The flag that says that the position is absent for which a layout has no column. -/
def HeaderLayout.lacking : HeaderLayout → Flags
  | basic => .toAmountAbsent
  | multiField => .returnAmountAbsent

namespace Header

def offset (h : Header) (absent : Flags) (n : Nat) : Nat :=
  if (Flags.ofNat h.flags).contains absent then 0 else n

/-- The header with the offsets of absent positions cleared, and with the position that its layout
lacks flagged absent. -/
def settled (h : Header) (layout : HeaderLayout) : Header :=
  { h with
    fromAmount := h.offset .fromAmountAbsent h.fromAmount
    toAmount := h.offset .toAmountAbsent h.toAmount
    srcToken := h.offset .srcTokenAbsent h.srcToken
    returnAmount := h.offset .returnAmountAbsent h.returnAmount
    flags := ((Flags.ofNat h.flags).union layout.lacking).bits.toNat }

/-- The offsets in a header are zero where they are flagged absent, and the position that its layout
lacks is flagged absent. -/
structure IsSettled (h : Header) (layout : HeaderLayout) : Prop where
  cleared : ∀ c ∈ layout.columns, ∀ absent, c.1.absence? = some absent →
    (Flags.ofNat h.flags).contains absent = true → h.get c.1 = 0
  flagged : (Flags.ofNat h.flags).contains layout.lacking = true

theorem get_set (h : Header) (column other : Column) (n : Nat) :
    (h.set column n).get other = if other = column then n else h.get other := by
  cases column <;> cases other <;> rfl

theorem get_read_of_not_mem {columns : List (Column × Nat)} {other : Column} (bs : Bytes)
    (g : Header) (absent : other ∉ columns.map Prod.fst) :
    (read columns bs g).get other = g.get other := by
  induction columns generalizing bs g with
  | nil => rfl
  | cons c rest ih =>
    rw [List.map_cons, List.mem_cons, not_or] at absent
    rw [read, ih _ _ absent.2, get_set, if_neg absent.1]

/-- The first column keeps its number, since no later one has its name. -/
theorem get_read_cons {column : Column} {width : Nat} {rest : List (Column × Nat)} (bs : Bytes)
    (g : Header) (distinct : (((column, width) :: rest).map Prod.fst).Nodup) :
    (read ((column, width) :: rest) bs g).get column = ofBigEndian (bs.take width) := by
  rw [List.map_cons, List.nodup_cons] at distinct
  rw [read, get_read_of_not_mem _ _ distinct.1, get_set, if_pos rfl]

theorem get_read_lt {columns : List (Column × Nat)} {bs : Bytes}
    (distinct : (columns.map Prod.fst).Nodup)
    (long : columns.foldr (fun c size => c.2 + size) 0 ≤ bs.length) (g : Header) :
    ∀ c ∈ columns, (read columns bs g).get c.1 < capacity c.2 := by
  induction columns generalizing bs g with
  | nil => nofun
  | cons c rest ih =>
    obtain ⟨column, width⟩ := c
    rw [List.foldr_cons] at long
    rw [List.forall_mem_cons, get_read_cons bs g distinct]
    constructor
    · have bound := ofBigEndian_lt (bs.take width)
      rwa [List.length_take_of_le (by omega)] at bound
    · exact ih (List.nodup_cons.1 distinct).2 (by rw [List.length_drop]; omega) _

/-- The numbers that were read are written as the bytes they were read from. -/
theorem image_read {columns : List (Column × Nat)} {bs : Bytes}
    (distinct : (columns.map Prod.fst).Nodup)
    (long : columns.foldr (fun c size => c.2 + size) 0 ≤ bs.length) (g : Header) :
    (read columns bs g).image columns =
      bs.take (columns.foldr (fun c size => c.2 + size) 0) := by
  induction columns generalizing bs g with
  | nil => rfl
  | cons c rest ih =>
    obtain ⟨column, width⟩ := c
    rw [List.foldr_cons] at long ⊢
    have size : (bs.take width).length = width := List.length_take_of_le (by omega)
    have first : bigEndian width (ofBigEndian (bs.take width)) = bs.take width := by
      have whole := bigEndian_ofBigEndian (bs.take width)
      rwa [size] at whole
    have others : (read ((column, width) :: rest) bs g).image rest =
        (bs.drop width).take (rest.foldr (fun c size => c.2 + size) 0) :=
      ih (List.nodup_cons.1 distinct).2 (by rw [List.length_drop]; omega) _
    rw [image, List.flatMap_cons, get_read_cons bs g distinct, first, List.take_add]
    exact congrArg (bs.take width ++ ·) others

theorem image_inj {h k : Header} {columns : List (Column × Nat)}
    (fits : ∀ c ∈ columns, h.get c.1 < capacity c.2)
    (refits : ∀ c ∈ columns, k.get c.1 < capacity c.2) :
    h.image columns = k.image columns ↔ ∀ c ∈ columns, h.get c.1 = k.get c.1 := by
  induction columns with
  | nil => simp [image]
  | cons c rest ih =>
    rw [List.forall_mem_cons] at fits refits ⊢
    rw [← ih fits.2 refits.2, image, image, List.flatMap_cons, List.flatMap_cons]
    constructor
    · intro same
      obtain ⟨first, others⟩ := List.append_inj same (by simp)
      refine ⟨?_, others⟩
      -- Numbers that fit their column are read back from the same bytes.
      have number := congrArg ofBigEndian first
      rwa [ofBigEndian_bigEndian, ofBigEndian_bigEndian, Nat.mod_eq_of_lt fits.1,
        Nat.mod_eq_of_lt refits.1] at number
    · rintro ⟨first, others⟩
      rw [first]
      exact congrArg (bigEndian c.2 (k.get c.1) ++ ·) others

theorem get_settled (h : Header) (layout : HeaderLayout) (column : Column) :
    (h.settled layout).get column =
      match column.absence? with
      | some absent => h.offset absent (h.get column)
      | none => if column = .flags then ((Flags.ofNat h.flags).union layout.lacking).bits.toNat
          else h.get column := by
  cases column <;> rfl

end Header

theorem HeaderLayout.nodup_columns (layout : HeaderLayout) :
    (layout.columns.map Prod.fst).Nodup := by
  cases layout <;> decide

theorem Flags.toNat_bits_lt (f : Flags) : f.bits.toNat < capacity 2 := f.bits.isLt

/-- Positions that were read keep their flags; only that of the position which the layout lacks is
set. -/
theorem Flags.set_markAbsent_positions (f : Flags) (layout : HeaderLayout)
    (fromAmount toAmount srcToken returnAmount : UInt16) :
    (f.markAbsent (layout.kept (f.positions fromAmount toAmount srcToken returnAmount))).set
      .specialExchange (f.contains .specialExchange) = f.union layout.lacking := by
  apply ext_bits
  intro i hi
  have kept (absent : Flags) (offset : UInt16) :
      (f.keep absent offset).isNone = f.contains absent := by
    rw [keep]
    cases f.contains absent <;> rfl
  cases layout <;>
    simp only [HeaderLayout.kept, HeaderLayout.lacking, positions, markAbsent, kept, getLsbD_set,
      union, BitVec.getLsbD_or, Option.isNone_none] <;>
    simp (disch := decide) only [ite_contains] <;>
    simp (disch := decide) only [getLsbD_named]
  all_goals interval_cases i <;> simp +decide

theorem Header.settled_lt {h : Header} {layout : HeaderLayout}
    (fits : ∀ c ∈ layout.columns, h.get c.1 < capacity c.2) :
    ∀ c ∈ layout.columns, (h.settled layout).get c.1 < capacity c.2 := by
  intro c mem
  rw [get_settled]
  cases c.1.absence? with
  | some absent =>
    by_cases set : (Flags.ofNat h.flags).contains absent = true
    · simp only [offset, if_pos set, capacity_pos]
    · simp only [offset, if_neg set, fits c mem]
  | none =>
    by_cases column : c.1 = .flags
    · have wide : ∀ c ∈ layout.columns, c.1 = .flags → c.2 = 2 := by cases layout <;> decide
      simp only [if_pos column, wide c mem column, Flags.toNat_bits_lt]
    · simp only [if_neg column, fits c mem]

theorem Flags.ext_toNat {f g : Flags} (h : f.bits.toNat = g.bits.toNat) : f = g := by
  obtain ⟨f⟩ := f
  obtain ⟨g⟩ := g
  congr 1
  exact BitVec.eq_of_toNat_eq h

theorem Flags.union_eq_self_iff {f g : Flags} : f.union g = f ↔ f.contains g = true := by
  rw [contains, decide_eq_true_iff, union]
  constructor
  · intro same
    have bits : f.bits ||| g.bits = f.bits := congrArg Flags.bits same
    rw [← bits, BitVec.and_comm]
    apply BitVec.eq_of_getLsbD_eq
    intro i _
    simp only [BitVec.getLsbD_and, BitVec.getLsbD_or]
    cases g.bits.getLsbD i <;> simp
  · intro within
    rw [← within]
    apply ext_bits
    intro i _
    simp only [BitVec.getLsbD_and, BitVec.getLsbD_or]
    cases f.bits.getLsbD i <;> simp

theorem Header.isSettled_iff {h : Header} {layout : HeaderLayout} (fits : h.flags < capacity 2) :
    h.IsSettled layout ↔ ∀ c ∈ layout.columns, h.get c.1 = (h.settled layout).get c.1 := by
  have marks : h.flags = ((Flags.ofNat h.flags).union layout.lacking).bits.toNat ↔
      (Flags.ofNat h.flags).contains layout.lacking = true := by
    have same : (Flags.ofNat h.flags).bits.toNat = h.flags := Nat.mod_eq_of_lt fits
    rw [← Flags.union_eq_self_iff]
    constructor
    · intro number
      exact Flags.ext_toNat (number.symm.trans same.symm)
    · intro flags
      rw [flags, same]
  constructor
  · rintro ⟨cleared, flagged⟩ c mem
    rw [get_settled]
    cases named : c.1.absence? with
    | some absent =>
      by_cases set : (Flags.ofNat h.flags).contains absent = true
      · simp only [offset, if_pos set, cleared c mem absent named set]
      · simp only [offset, if_neg set]
    | none =>
      by_cases column : c.1 = .flags
      · rw [column]
        exact marks.2 flagged
      · simp only [if_neg column]
  · intro same
    refine ⟨fun c mem absent named set => ?_, marks.1 ?_⟩
    · rw [same c mem, get_settled, named]
      simp only [offset, if_pos set]
    · exact same (.flags, 2) (by cases layout <;> decide)

namespace Instruction

variable {layout : HeaderLayout} {bytes calldata : Bytes}

def settled (i : Instruction) (layout : HeaderLayout) : Instruction :=
  { i with
    positions := layout.kept i.positions
    flags := i.flags.union layout.lacking }

theorem carried_ofHeader (layout : HeaderLayout) (bytes calldata : Bytes) :
    (ofHeader layout bytes calldata).carried layout =
      (ofHeader layout bytes calldata).settled layout := by
  have special : (ofHeader layout bytes calldata).special.isSome =
      (headerFlags layout bytes).contains .specialExchange := by
    rw [ofHeader]
    cases (headerFlags layout bytes).contains .specialExchange <;> rfl
  rw [carried, settled, special, layout.restrict_eq_kept]
  congr 1
  exact Flags.set_markAbsent_positions _ layout _ _ _ _

theorem numbers_lt (layout : HeaderLayout) (long : bytes.length = headerLength) :
    ∀ c ∈ layout.columns, (numbers layout bytes).get c.1 < capacity c.2 := by
  apply Header.get_read_lt layout.nodup_columns
  have filled := layout.sum_columns
  rw [List.length_drop]
  omega

/-- A header is the target, its numbers and the padding. -/
theorem header_eq (layout : HeaderLayout) (long : bytes.length = headerLength) :
    bytes = bytes.take Address.size ++ (numbers layout bytes).image layout.columns
      ++ bytes.drop (headerLength - paddingLength) := by
  have filled := layout.sum_columns
  have room : layout.columns.foldr (fun c size => c.2 + size) 0 ≤
      (bytes.drop Address.size).length := by
    rw [List.length_drop]
    omega
  have written := Header.image_read layout.nodup_columns room {}
  have behind : headerLength - paddingLength =
      Address.size + layout.columns.foldr (fun c size => c.2 + size) 0 := by omega
  rw [numbers, written, behind, ← List.drop_drop, List.append_assoc, List.take_append_drop,
    List.take_append_drop]

theorem number_special {f : Flags} {n : Nat} (fits : n < capacity 2)
    (flagged : ¬(UInt16.ofNat n ≠ 0 ∧ ¬f.contains .specialExchange = true)) :
    number (if f.contains .specialExchange = true then some (UInt16.ofNat n) else none) = n := by
  have same : (UInt16.ofNat n).toNat = n := UInt16.toNat_ofNat_of_lt' fits
  by_cases special : f.contains .specialExchange = true
  · rw [if_pos special]
    exact same
  · rw [if_neg special]
    have zero : UInt16.ofNat n = 0 := by
      by_contra other
      exact flagged ⟨other, special⟩
    rw [← same, zero]
    rfl

theorem numbers_of_not_mem (column : Column) (missing : column ∉ layout.columns.map Prod.fst) :
    (numbers layout bytes).get column = 0 := by
  rw [numbers, Header.get_read_of_not_mem _ _ missing]
  cases column <;> rfl

theorem numbers_lt_two (layout : HeaderLayout) (long : bytes.length = headerLength)
    (column : Column) (other : column ≠ .length) :
    (numbers layout bytes).get column < capacity 2 := by
  by_cases mem : column ∈ layout.columns.map Prod.fst
  · obtain ⟨c, within, rfl⟩ := List.mem_map.1 mem
    have narrow : ∀ c ∈ layout.columns, c.1 ≠ .length → c.2 ≤ 2 := by cases layout <;> decide
    have fits := numbers_lt layout long c within
    exact Nat.lt_of_lt_of_le fits (Nat.pow_le_pow_right (by decide) (narrow c within other))
  · rw [numbers_of_not_mem column mem]
    exact capacity_pos 2

theorem Announces.header_settled (h : Announces layout bytes calldata) :
    ((ofHeader layout bytes calldata).settled layout).header =
      (numbers layout bytes).settled layout := by
  have length : calldata.length = (numbers layout bytes).length := h.length.symm
  have special : number (ofHeader layout bytes calldata).special =
      (numbers layout bytes).special :=
    number_special (numbers_lt_two layout h.size .special (by decide)) h.flagged
  have kept (absent : Flags) (column : Column) (other : column ≠ .length) :
      number ((headerFlags layout bytes).keep absent
          (UInt16.ofNat ((numbers layout bytes).get column))) =
        (numbers layout bytes).offset absent ((numbers layout bytes).get column) := by
    rw [Flags.keep, Header.offset, ← headerFlags]
    split
    · rfl
    · exact UInt16.toNat_ofNat_of_lt' (numbers_lt_two layout h.size column other)
  rw [header, Header.settled]
  cases layout with
  | basic =>
    have missing : (numbers .basic bytes).toAmount = 0 :=
      numbers_of_not_mem .toAmount (by decide)
    congr 1
    · exact kept .fromAmountAbsent .fromAmount (by decide)
    · rw [missing, Header.offset, ite_self]
      rfl
    · exact kept .srcTokenAbsent .srcToken (by decide)
    · exact kept .returnAmountAbsent .returnAmount (by decide)
  | multiField =>
    have missing : (numbers .multiField bytes).returnAmount = 0 :=
      numbers_of_not_mem .returnAmount (by decide)
    congr 1
    · exact kept .fromAmountAbsent .fromAmount (by decide)
    · exact kept .toAmountAbsent .toAmount (by decide)
    · exact kept .srcTokenAbsent .srcToken (by decide)
    · rw [missing, Header.offset, ite_self]
      rfl

theorem carried_carried (i : Instruction) (layout : HeaderLayout) :
    (i.carried layout).carried layout = i.carried layout := by
  have kept : layout.kept (layout.kept i.positions) = layout.kept i.positions := by
    cases layout <;> rfl
  have again (f x : Flags) :
      (((f.without .carriage).union x).without .carriage).union x =
        (f.without .carriage).union x := by
    apply Flags.ext_bits
    intro n _
    simp only [Flags.union, Flags.without, BitVec.getLsbD_or, BitVec.getLsbD_and]
    cases x.bits.getLsbD n <;> simp
  rw [carried_eq_normalForm, carried_eq_normalForm]
  simp only [normalForm, kept, again]

theorem encode_carried (i : Instruction) (layout : HeaderLayout) :
    (i.carried layout).encode layout = i.encode layout := by
  unfold encode
  rw [carried_carried]
  rfl

theorem Announces.target_bytes (h : Announces layout bytes calldata) :
    (ofHeader layout bytes calldata).target.bytes = bytes.take Address.size := by
  have size : (bytes.take Address.size).length = 20 := by
    rw [List.length_take, h.size]
    rfl
  exact List.take_left' size

theorem Announces.padding_eq (h : Announces layout bytes calldata) :
    bytes.drop (headerLength - paddingLength) = List.replicate paddingLength 0 := by
  rw [List.eq_replicate_iff, List.length_drop, h.size]
  refine ⟨rfl, fun b mem => ?_⟩
  by_contra other
  exact h.padding (List.any_eq_true.2 ⟨b, mem, decide_eq_true other⟩)

/-- An accepted header is written back with its numbers put right. -/
theorem Announces.image_eq (h : Announces layout bytes calldata) :
    (ofHeader layout bytes calldata).image layout =
      bytes.take Address.size ++ ((numbers layout bytes).settled layout).image layout.columns
        ++ bytes.drop (headerLength - paddingLength) ++ calldata := by
  rw [image, carried_ofHeader, h.header_settled, h.target_bytes, h.padding_eq]
  rfl

theorem Announces.encode_eq (h : Announces layout bytes calldata) :
    (ofHeader layout bytes calldata).encode layout =
      .ok ⟨layout, (ofHeader layout bytes calldata).image layout⟩ := by
  have inside := Positions.firstOutside?_eq_none_iff.1 h.inside
  refine encode_eq_ok_iff.2 ⟨layout.firstOutside?_restrict inside, ?_, rfl⟩
  rw [carried_ofHeader, h.header_settled]
  exact Header.settled_lt (numbers_lt layout h.size)

/-- A record that was read has a record again, as long as the one read.  The two differ only in the
offsets of absent positions, which are cleared, and in the flag on the position that the layout
lacks, which is set; they are the same exactly if that was so before.  What is read from the new
record is written back as it is. -/
theorem encode_decodeAt {data : Bytes} {position : Nat} {i : Instruction}
    (h : decodeAt layout data position = .ok i) :
    ∃ (header : Bytes) (r : Record),
      header.length = headerLength ∧ data.StandsAt position (header ++ i.calldata) ∧
      i.encode layout = .ok r ∧ r.bytes.length = i.recordLength ∧
      header = header.take Address.size ++ (numbers layout header).image layout.columns
        ++ header.drop (headerLength - paddingLength) ∧
      r.bytes = header.take Address.size
        ++ ((numbers layout header).settled layout).image layout.columns
        ++ header.drop (headerLength - paddingLength) ++ i.calldata ∧
      (r.bytes = header ++ i.calldata ↔ (numbers layout header).IsSettled layout) ∧
      r.decode = .ok (i.settled layout) ∧ (i.settled layout).encode layout = .ok r := by
  obtain ⟨header, announces, same, stands⟩ := decodeAt_eq_ok_iff.1 h
  have parts := header_eq layout announces.size
  have image := announces.image_eq
  have encoded := announces.encode_eq
  have carried := carried_ofHeader layout header i.calldata
  have defined : i.flags.hasUndefined = false := by
    rw [same]
    exact Bool.eq_false_iff.2 announces.defined
  rw [← same] at image encoded carried
  refine ⟨header, _, announces.size, stands, encoded, length_image i layout, parts, image, ?_, ?_,
    ?_⟩
  · have fits := numbers_lt layout announces.size
    have flags : (numbers layout header).flags < capacity 2 :=
      numbers_lt_two layout announces.size .flags (by decide)
    rw [Header.isSettled_iff flags, ← Header.image_inj fits (Header.settled_lt fits), image,
      List.append_cancel_right_eq]
    constructor
    · intro rewritten
      have whole := List.append_cancel_right (rewritten.trans parts)
      exact (List.append_cancel_left whole).symm
    · intro numbers
      rw [← numbers]
      exact parts.symm
  · have read := ((decodeAt_encode encoded [] []).1 defined).1
    rw [List.nil_append, List.append_nil, ← carried_eq_normalForm, carried] at read
    exact read
  · rw [← carried, encode_carried, encoded]

/-- The offsets of two positions that are flagged absent, and no flag on the one that the layout
lacks. -/
theorem encode_decodeAt_loose :
    let part : Bytes := List.replicate 20 0x11 ++ [0, 2, 0xFF, 0xFF, 0, 1, 0, 7, 0, 9, 6, 4]
      ++ List.replicate 28 0 ++ [1, 2]
    let i : Instruction := ⟨.repeated 0x11, ⟨some 1, none, none, some 0⟩, some 9, ⟨0x0604⟩, [1, 2]⟩
    decodeAt .multiField ([9, 9] ++ part ++ [7]) 2 = .ok i ∧
    ∃ r, i.encode .multiField = .ok r ∧ r.bytes.length = 62 ∧ r.bytes ≠ part ∧
      r.decode =
        .ok ⟨.repeated 0x11, ⟨some 1, none, none, none⟩, some 9, ⟨0x0E04⟩, [1, 2]⟩ := by
  intro part i
  have read : decodeAt .multiField ([9, 9] ++ part ++ [7]) 2 = .ok i := by decide
  obtain ⟨header, r, size, stands, encoded, length, _, _, same, decoded, _⟩ := encode_decodeAt read
  have settled : i.settled .multiField =
      ⟨.repeated 0x11, ⟨some 1, none, none, none⟩, some 9, ⟨0x0E04⟩, [1, 2]⟩ := by decide
  rw [settled] at decoded
  refine ⟨read, r, encoded, length, ?_, decoded⟩
  have found := Bytes.slice?_eq_some_iff.2 ⟨stands, rfl⟩
  rw [List.length_append, size] at found
  have cut : Bytes.slice? ([9, 9] ++ part ++ [7]) 2 (headerLength + i.calldata.length) =
      some part := by decide
  rw [cut, Option.some.injEq] at found
  rw [found, Ne, same]
  intro settled
  have head : header = part.take headerLength := by
    rw [found, List.take_left' size]
  have flagged := settled.flagged
  rw [head] at flagged
  revert flagged
  decide

end Instruction
end SwapPlan
