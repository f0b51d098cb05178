import SwapPlan.Proofs.Record.RoundTrip
/-!
# The bytes of a record

Which instructions have a record in a layout, byte by byte what the record is, and which error
stands for the others.
-/
set_option autoImplicit false

namespace SwapPlan

theorem Header.write_eq_error {h : Header} {front back : List (Column × Nat)} {column : Column}
    {width : Nat} (fits : ∀ c ∈ front, h.get c.1 < capacity c.2)
    (large : capacity width ≤ h.get column) :
    h.write (front ++ (column, width) :: back) =
      .error (.overflow column (h.get column) (8 * width)) := by
  induction front with
  | nil =>
    rw [List.nil_append, write, if_neg (Nat.not_lt.2 large)]
  | cons c front ih =>
    rw [List.forall_mem_cons] at fits
    rw [List.cons_append, write, if_pos fits.1, ih fits.2]
    rfl

theorem Positions.firstOutside?_eq_some_iff {p : Positions} {length : Nat} {name : String}
    {offset : UInt16} :
    p.firstOutside? length = some (name, offset) ↔
      ∃ front back, p.named = front ++ (name, some offset) :: back ∧
        (∀ entry ∈ front, ∀ earlier, entry.2 = some earlier → earlier.toNat < length) ∧
        length ≤ offset.toNat := by
  rw [firstOutside?, List.findSome?_eq_some_iff]
  constructor
  · rintro ⟨front, ⟨name', position⟩, back, split, found, before⟩
    simp only [Option.bind_eq_some_iff, Option.ite_none_right_eq_some] at found
    obtain ⟨offset', rfl, outside, same⟩ := found
    cases same
    refine ⟨front, back, split, ?_, outside⟩
    rintro ⟨other, position⟩ member earlier rfl
    have inside := before _ member
    simpa using inside
  · rintro ⟨front, back, split, before, outside⟩
    refine ⟨front, (name, some offset), back, split, by simp [outside], ?_⟩
    rintro ⟨other, position⟩ member
    cases position with
    | none => rfl
    | some earlier =>
      have inside := before _ member earlier rfl
      simp [inside]

namespace Instruction

/-- The bytes of an instruction's record, part by part. -/
def wire (i : Instruction) (layout : HeaderLayout) : Bytes :=
  i.target.bytes ++
  (match layout with
  | .basic =>
    bigEndian 4 i.calldata.length ++ bigEndian 2 (number i.positions.fromAmount) ++
      bigEndian 2 (number i.positions.srcToken) ++ bigEndian 1 (number i.positions.returnAmount) ++
      bigEndian 1 (number i.special)
  | .multiField =>
    bigEndian 2 i.calldata.length ++ bigEndian 2 (number i.positions.toAmount) ++
      bigEndian 2 (number i.positions.fromAmount) ++ bigEndian 2 (number i.positions.srcToken) ++
      bigEndian 2 (number i.special)) ++
  bigEndian 2 (i.normalForm layout).flags.bits.toNat ++ List.replicate 28 0 ++ i.calldata

theorem image_eq_wire (i : Instruction) (layout : HeaderLayout) :
    i.image layout = i.wire layout := by
  have flags : (i.carried layout).flags = (i.normalForm layout).flags := by
    rw [carried_eq_normalForm]
  unfold image wire
  rw [← flags]
  cases layout <;> simp [Header.image, HeaderLayout.columns, Header.get, Instruction.header,
    carried, HeaderLayout.restrict, HeaderLayout.hasColumn, paddingLength]

def Inside (i : Instruction) (layout : HeaderLayout) : Prop :=
  ∀ entry ∈ (layout.kept i.positions).named, ∀ offset, entry.2 = some offset →
    offset.toNat < i.calldata.length

theorem inside_iff {i : Instruction} {layout : HeaderLayout} :
    i.Inside layout ↔ (layout.restrict i.positions).firstOutside? i.calldata.length = none := by
  rw [layout.restrict_eq_kept, Positions.firstOutside?_eq_none_iff, Inside]

/-- The reasons for which an instruction has no record: the first position outside the calldata,
and if there is none the first number that is too large. -/
inductive Refused (i : Instruction) (layout : HeaderLayout) : EncodingError → Prop
  | outside {front back : List (String × Option UInt16)} {name : String} {offset : UInt16}
      (split : (layout.kept i.positions).named = front ++ (name, some offset) :: back)
      (before : ∀ entry ∈ front, ∀ earlier, entry.2 = some earlier →
        earlier.toNat < i.calldata.length)
      (outside : i.calldata.length ≤ offset.toNat) :
      Refused i layout (.positionOutside name offset i.calldata.length)
  | long (inside : i.Inside layout) (long : 2 ^ layout.lengthBits ≤ i.calldata.length) :
      Refused i layout (.overflow .length i.calldata.length layout.lengthBits)
  | returned (basic : layout = .basic) (inside : i.Inside layout)
      (short : i.calldata.length < 2 ^ layout.lengthBits)
      (large : 255 < number i.positions.returnAmount) :
      Refused i layout (.overflow .returnAmount (number i.positions.returnAmount) 8)
  | special (basic : layout = .basic) (inside : i.Inside layout)
      (short : i.calldata.length < 2 ^ layout.lengthBits)
      (returned : number i.positions.returnAmount ≤ 255) (large : 255 < number i.special) :
      Refused i layout (.overflow .special (number i.special) 8)

theorem encode_eq_overflow {i : Instruction} {layout : HeaderLayout} (inside : i.Inside layout)
    (front : List (Column × Nat)) {column : Column} {width : Nat} {back : List (Column × Nat)}
    (columns : layout.columns = front ++ (column, width) :: back)
    (fits : ∀ c ∈ front, (i.carried layout).header.get c.1 < capacity c.2)
    (large : capacity width ≤ (i.carried layout).header.get column) :
    i.encode layout =
      .error (.overflow column ((i.carried layout).header.get column) (8 * width)) := by
  have none_outside := inside_iff.1 inside
  have positions : (i.carried layout).positions = layout.restrict i.positions := rfl
  unfold encode
  simp only [positions, none_outside, columns, Header.write_eq_error fits large]
  rfl

theorem encode_of_refused {i : Instruction} {layout : HeaderLayout} {e : EncodingError}
    (refused : i.Refused layout e) : i.encode layout = .error e := by
  cases refused with
  | outside split before outside =>
    have found := Positions.firstOutside?_eq_some_iff.2 ⟨_, _, split, before, outside⟩
    rw [← layout.restrict_eq_kept] at found
    unfold encode carried
    simp only [found]
  | long inside long => cases layout <;> exact encode_eq_overflow inside [] rfl (List.forall_mem_nil _) long
  | returned basic inside short large =>
    subst basic
    refine encode_eq_overflow inside [(.length, 4), (.fromAmount, 2), (.srcToken, 2)] rfl ?_ large
    simp only [List.forall_mem_cons]
    exact ⟨short, number_lt _, number_lt _, List.forall_mem_nil _⟩
  | special basic inside short returned large =>
    subst basic
    refine encode_eq_overflow inside
      [(.length, 4), (.fromAmount, 2), (.srcToken, 2), (.returnAmount, 1)] rfl ?_ large
    simp only [List.forall_mem_cons]
    exact ⟨short, number_lt _, number_lt _, Nat.lt_succ_of_le returned, List.forall_mem_nil _⟩

theorem exists_refused {i : Instruction} {layout : HeaderLayout}
    (unfit : ¬(i.Inside layout ∧ i.Narrow layout)) : ∃ e, i.Refused layout e := by
  by_cases inside : i.Inside layout
  · by_cases short : i.calldata.length < 2 ^ layout.lengthBits
    · have wide : layout = .basic ∧
          ¬(number i.positions.returnAmount ≤ 255 ∧ number i.special ≤ 255) := by
        by_contra numbers
        exact unfit ⟨inside, short, fun basic => by_contra fun large => numbers ⟨basic, large⟩⟩
      by_cases returned : number i.positions.returnAmount ≤ 255
      · exact ⟨_, .special wide.1 inside short returned (by omega)⟩
      · exact ⟨_, .returned wide.1 inside short (by omega)⟩
    · exact ⟨_, .long inside (Nat.not_lt.1 short)⟩
  · cases found : (layout.kept i.positions).firstOutside? i.calldata.length with
    | none => exact absurd (Positions.firstOutside?_eq_none_iff.1 found) inside
    | some outside =>
      obtain ⟨front, back, split, before, outside⟩ := Positions.firstOutside?_eq_some_iff.1 found
      exact ⟨_, .outside split before outside⟩

theorem encode_eq_wire_iff {i : Instruction} {layout : HeaderLayout} {r : Record} :
    i.encode layout = .ok r ↔
      (i.Inside layout ∧ i.Narrow layout) ∧ r = ⟨layout, i.wire layout⟩ := by
  rw [encode_eq_ok_iff, inside_iff, narrow_iff, image_eq_wire, and_assoc]

theorem encode_eq_error_iff {i : Instruction} {layout : HeaderLayout} {e : EncodingError} :
    i.encode layout = .error e ↔ i.Refused layout e := by
  constructor
  · intro failed
    have unfit : ¬(i.Inside layout ∧ i.Narrow layout) := by
      intro fits
      have written := encode_eq_wire_iff.2 ⟨fits, rfl⟩
      rw [failed] at written
      cases written
    obtain ⟨cause, refused⟩ := exists_refused unfit
    have same := encode_of_refused refused
    rw [failed] at same
    cases same
    exact refused
  · exact encode_of_refused

/-- Whether an instruction has a record, which bytes it is, and which error stands for it if there
is none.  A position that the layout drops decides nothing of this. -/
theorem encode_wire (i : Instruction) (layout : HeaderLayout) :
    ((∃ r, i.encode layout = .ok r) ↔ i.Inside layout ∧ i.Narrow layout) ∧
    (∀ r, i.encode layout = .ok r →
      r = ⟨layout, i.wire layout⟩ ∧ r.bytes.length = 60 + i.calldata.length) ∧
    (∀ e, i.encode layout = .error e ↔ i.Refused layout e) ∧
    (∀ p, layout.kept p = layout.kept i.positions →
      ({ i with positions := p } : Instruction).encode layout = i.encode layout) := by
  refine ⟨?_, ?_, fun e => encode_eq_error_iff, ?_⟩
  · constructor
    · rintro ⟨r, written⟩
      exact (encode_eq_wire_iff.1 written).1
    · intro fits
      exact ⟨_, encode_eq_wire_iff.2 ⟨fits, rfl⟩⟩
  · intro r written
    obtain ⟨_, rfl⟩ := encode_eq_wire_iff.1 written
    refine ⟨rfl, ?_⟩
    show (i.wire layout).length = 60 + i.calldata.length
    rw [← image_eq_wire, length_image]
    rfl
  · intro p same
    have carried : ({ i with positions := p } : Instruction).carried layout = i.carried layout := by
      rw [carried_eq_normalForm, carried_eq_normalForm, normalForm, normalForm, same]
    unfold encode
    rw [carried]

/-- A call with a special handler: its record in the basic layout, the position that another
calldata leaves outside, and the handler that is too large for one byte. -/
theorem encode_wire_special :
    let i : Instruction :=
      ⟨.repeated 0x22, ⟨some 4, none, none, none⟩, some 1, .empty, List.replicate 36 7⟩
    (∃ r, i.encode .basic = .ok r ∧ r = ⟨.basic, i.wire .basic⟩ ∧ r.bytes.length = 96) ∧
      ({ i with calldata := [7, 7, 7, 7] } : Instruction).encode .basic =
        .error (.positionOutside "fromAmount" 4 4) ∧
      ({ i with special := some 256 } : Instruction).encode .basic =
        .error (.overflow .special 256 8) ∧
      ({ i with positions := ⟨some 4, some 99, none, none⟩ } : Instruction).encode .basic =
        i.encode .basic := by
  intro i
  have inside : i.Inside .basic := inside_iff.2 (by decide)
  have short : i.calldata.length < 2 ^ HeaderLayout.basic.lengthBits := by decide
  refine ⟨?_, ?_, ?_, ?_⟩
  · obtain ⟨exists_iff, image, _, _⟩ := encode_wire i .basic
    obtain ⟨r, written⟩ := exists_iff.2 ⟨inside, short, fun _ => by decide⟩
    exact ⟨r, written, image r written⟩
  · refine ((encode_wire _ .basic).2.2.1 _).2 ?_
    exact @Refused.outside _ _ [] _ _ _ rfl nofun (by decide)
  · refine ((encode_wire _ .basic).2.2.1 _).2 ?_
    exact .special rfl inside short (by decide) (by decide)
  · exact (encode_wire i .basic).2.2.2 ⟨some 4, some 99, none, none⟩ (by decide)

end Instruction
end SwapPlan
