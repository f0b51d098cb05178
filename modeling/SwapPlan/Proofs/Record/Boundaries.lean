import SwapPlan.Proofs.Pointwise
import SwapPlan.Proofs.Record.Headers
import SwapPlan.Proofs.Record.RoundTrip
/-!
# Where records end

A byte string is a plan in one way only: each record says where it ends, and the next one starts
there.  A plan that is cut off is a plan again if the cut is between two records, and otherwise the
reader stops in the record that is cut (`decodePlan_delimited`).
-/
set_option autoImplicit false

namespace SwapPlan

def Delimits (layout : HeaderLayout) (part : Bytes) (i : Instruction) : Prop :=
  Instruction.decodeAt layout part 0 = .ok i ∧ part.length = i.recordLength

def recordsLength (is : List Instruction) : Nat := (is.map Instruction.recordLength).sum

/-- The loop of the reader, round by round: it ends behind the last byte, or at a record that is
refused, and otherwise goes on behind the record that it has read. -/
inductive Walks (layout : HeaderLayout) (data : Bytes) :
    (rounds position : Nat) → Except DecodeError (List Instruction) → Prop
  | done {position : Nat} (outside : data.length ≤ position) : Walks layout data 0 position (.ok [])
  | refused {position : Nat} {e : DecodeError} (inside : position < data.length)
      (read : Instruction.decodeAt layout data position = .error e) :
      Walks layout data 1 position (.error e)
  | next {position rounds : Nat} {i : Instruction} {result : Except DecodeError (List Instruction)}
      (inside : position < data.length) (read : Instruction.decodeAt layout data position = .ok i)
      (tail : Walks layout data rounds (position + i.recordLength) result) :
      Walks layout data (rounds + 1) position (result.map (i :: ·))

variable {layout : HeaderLayout} {data part : Bytes} {i : Instruction} {position : Nat}
  {parts : List Bytes} {is : List Instruction}

open Instruction (Announces ofHeader decodeAt)

theorem delimits_iff :
    Delimits layout part i ↔
      ∃ bytes, Announces layout bytes i.calldata ∧ i = ofHeader layout bytes i.calldata ∧
        part = bytes ++ i.calldata := by
  rw [Delimits, Instruction.decodeAt_eq_ok_iff]
  constructor
  · rintro ⟨⟨bytes, announces, same, before, after, rfl, start⟩, length⟩
    refine ⟨bytes, announces, same, ?_⟩
    rw [List.length_eq_zero_iff] at start
    subst start
    -- The record fills the byte string, so nothing stands behind it.
    have nothing : after = [] := by
      simpa [announces.size, Instruction.recordLength] using length
    simp [nothing]
  · rintro ⟨bytes, announces, same, rfl⟩
    refine ⟨⟨bytes, announces, same, [], [], by simp, rfl⟩, ?_⟩
    rw [List.length_append, announces.size, Instruction.recordLength]

theorem Delimits.length_pos (h : Delimits layout part i) : 0 < part.length := by
  rw [h.2, Instruction.recordLength, headerLength]
  omega

/-- A record is read where a byte string that is its own record stands. -/
theorem decodeAt_eq_ok_iff_delimits :
    decodeAt layout data position = .ok i ↔
      ∃ part, Delimits layout part i ∧ data.StandsAt position part := by
  simp only [Instruction.decodeAt_eq_ok_iff, delimits_iff]
  constructor
  · rintro ⟨bytes, announces, same, stands⟩
    exact ⟨_, ⟨bytes, announces, same, rfl⟩, stands⟩
  · rintro ⟨_, ⟨bytes, announces, same, rfl⟩, stands⟩
    exact ⟨bytes, announces, same, stands⟩

theorem Delimits.decodeAt_take (h : Delimits layout part i) (before : Bytes) {length : Nat}
    (short : length < i.recordLength) :
    decodeAt layout (before ++ part.take length) before.length =
      if length < headerLength then .error (.truncated before.length headerLength length)
      else .error (.truncated (before.length + headerLength) i.calldata.length
        (length - headerLength)) := by
  obtain ⟨bytes, announces, same, rfl⟩ := delimits_iff.1 h
  have total : (before ++ (bytes ++ i.calldata).take length).length = before.length + length := by
    rw [List.length_append, List.length_take_of_le]
    rw [h.2]
    exact Nat.le_of_lt short
  split
  · rename_i head
    rw [decodeAt, takeAt_of_lt (by omega), total, Nat.add_sub_cancel_left]
    rfl
  · rename_i body
    have stands : (before ++ (bytes ++ i.calldata).take length).StandsAt before.length bytes := by
      refine ⟨before, i.calldata.take (length - headerLength), ?_, rfl⟩
      rw [List.take_append, announces.size, List.take_of_length_le (by rw [announces.size]; omega),
        List.append_assoc]
    rw [Instruction.recordLength] at short
    rw [announces.decodeAt_eq stands, takeAt_of_lt (by omega), total, Nat.add_sub_add_left]
    rfl

@[simp] theorem recordsLength_nil : recordsLength [] = 0 := rfl

@[simp] theorem recordsLength_cons (i : Instruction) (is : List Instruction) :
    recordsLength (i :: is) = i.recordLength + recordsLength is := rfl

theorem length_flatten_of_delimits (h : List.Forall₂ (Delimits layout) parts is) :
    parts.flatten.length = recordsLength is := by
  induction h with
  | nil => rfl
  | cons first _ ih => rw [List.flatten_cons, List.length_append, first.2, ih, recordsLength_cons]

/-- The reader goes through the records that stand in front and continues behind them. -/
theorem decodePlanFrom_append (h : List.Forall₂ (Delimits layout) parts is) (before rest : Bytes) :
    decodePlanFrom layout (before ++ parts.flatten ++ rest) before.length =
      (decodePlanFrom layout (before ++ parts.flatten ++ rest)
        (before.length + recordsLength is)).map (is ++ ·) := by
  induction h generalizing before with
  | nil =>
    have same (x : Except DecodeError (List Instruction)) : x.map ([] ++ ·) = x := by
      cases x <;> rfl
    rw [recordsLength_nil, Nat.add_zero, same]
  | @cons part i parts is first _ ih =>
    have whole : before ++ (part :: parts).flatten ++ rest =
        (before ++ part) ++ parts.flatten ++ rest := by simp
    have read : decodeAt layout (before ++ (part :: parts).flatten ++ rest) before.length = .ok i :=
      decodeAt_eq_ok_iff_delimits.2 ⟨part, first, before, parts.flatten ++ rest, by simp, rfl⟩
    have inside : before.length < (before ++ (part :: parts).flatten ++ rest).length := by
      have := first.length_pos
      simp only [List.flatten_cons, List.length_append]
      omega
    have behind := ih (before ++ part)
    rw [← whole, List.length_append, first.2] at behind
    rw [decodePlanFrom, if_pos inside, read, Outcome.ok_bind, behind, recordsLength_cons,
      ← Nat.add_assoc]
    cases decodePlanFrom layout (before ++ (part :: parts).flatten ++ rest)
      (before.length + i.recordLength + recordsLength is) <;> rfl

theorem decodePlanFrom_of_le (outside : data.length ≤ position) :
    decodePlanFrom layout data position = .ok [] := by
  rw [decodePlanFrom, if_neg (Nat.not_lt_of_le outside)]

theorem decodePlan_flatten (h : List.Forall₂ (Delimits layout) parts is) :
    decodePlan layout parts.flatten = .ok is := by
  have whole := decodePlanFrom_append h [] []
  rw [List.nil_append, List.append_nil, List.length_nil, Nat.zero_add,
    decodePlanFrom_of_le (Nat.le_of_eq (length_flatten_of_delimits h))] at whole
  rw [decodePlan, whole]
  simp [Except.map]

theorem delimits_image (i : Instruction) (layout : HeaderLayout)
    (inside : (layout.restrict i.positions).firstOutside? i.calldata.length = none)
    (fits : ∀ c ∈ layout.columns, (i.carried layout).header.get c.1 < capacity c.2)
    (defined : i.flags.hasUndefined = false) :
    Delimits layout (i.image layout) (i.carried layout) := by
  have read := Instruction.decodeAt_image inside fits [] []
  rw [List.nil_append, List.append_nil, List.length_nil, defined] at read
  exact ⟨read, Instruction.length_image i layout⟩

theorem decodePlan_of_carries {rs : List Record}
    (h : List.Forall₂ (Record.Carries layout) rs is) :
    decodePlan layout (rs.flatMap Record.bytes) = .ok is := by
  rw [List.flatMap_def]
  apply decodePlan_flatten
  rw [List.forall₂_map_left_iff]
  refine h.imp fun r i carried => ?_
  obtain ⟨written, encoded, defined, rfl⟩ := carried
  obtain ⟨inside, fits, rfl⟩ := Instruction.encode_eq_ok_iff.1 encoded
  rw [← Instruction.carried_eq_normalForm]
  exact delimits_image written layout inside fits defined

/-- What is left of a byte string that reads as a plan is records and nothing else. -/
theorem exists_delimits_of_decodePlanFrom (h : decodePlanFrom layout data position = .ok is) :
    ∃ parts, data.drop position = parts.flatten ∧ List.Forall₂ (Delimits layout) parts is := by
  induction is generalizing position with
  | nil =>
    rw [decodePlanFrom] at h
    split at h
    · obtain ⟨_, _, h⟩ := Outcome.bind_eq_ok.1 h
      obtain ⟨_, _, h⟩ := Outcome.bind_eq_ok.1 h
      cases h
    · exact ⟨[], by rw [List.drop_of_length_le (by omega), List.flatten_nil], .nil⟩
  | cons i is ih =>
    rw [decodePlanFrom] at h
    split at h
    · obtain ⟨_, read, h⟩ := Outcome.bind_eq_ok.1 h
      obtain ⟨_, others, h⟩ := Outcome.bind_eq_ok.1 h
      cases h
      obtain ⟨part, delimits, before, after, rfl, rfl⟩ := decodeAt_eq_ok_iff_delimits.1 read
      obtain ⟨parts, rest, records⟩ := ih others
      refine ⟨part :: parts, ?_, .cons delimits records⟩
      rw [← delimits.2, ← List.length_append, List.drop_left' rfl] at rest
      rw [List.append_assoc, List.drop_left' rfl, rest, List.flatten_cons]
    · cases h

/-- A byte string reads as a plan exactly if it is the records of the plan, one behind the other. -/
theorem decodePlan_eq_ok_iff :
    decodePlan layout data = .ok is ↔
      ∃ parts, data = parts.flatten ∧ List.Forall₂ (Delimits layout) parts is := by
  constructor
  · exact exists_delimits_of_decodePlanFrom
  · rintro ⟨parts, rfl, records⟩
    exact decodePlan_flatten records

theorem exists_walks (layout : HeaderLayout) (data : Bytes) (position : Nat) :
    ∃ rounds, Walks layout data rounds position (decodePlanFrom layout data position) ∧
      headerLength * rounds < data.length - position + headerLength := by
  induction position using decodePlanFrom.induct data with
  | case1 position inside ih =>
    rw [decodePlanFrom, if_pos inside]
    cases read : decodeAt layout data position with
    | error e =>
      refine ⟨1, .refused inside read, ?_⟩
      omega
    | ok i =>
      obtain ⟨rounds, walks, bound⟩ := ih i
      have step := Walks.next inside read walks
      refine ⟨rounds + 1, ?_, ?_⟩
      · rw [Outcome.ok_bind]
        exact step
      · have advance : headerLength ≤ i.recordLength := Nat.le_add_right _ _
        simp only [headerLength] at *
        omega
  | case2 position outside =>
    rw [decodePlanFrom, if_neg outside]
    exact ⟨0, .done (Nat.le_of_not_lt outside), by simp [headerLength]⟩

/-- The record in which a place of a plan lies. -/
theorem exists_record_at {length : Nat} (inside : length < recordsLength is) :
    ∃ front i back n, is = front ++ i :: back ∧ length = recordsLength front + n ∧
      n < i.recordLength := by
  induction is generalizing length with
  | nil => simp at inside
  | cons first rest ih =>
    rw [recordsLength_cons] at inside
    by_cases here : length < first.recordLength
    · exact ⟨[], first, rest, length, rfl, by simp, here⟩
    · have behind : length - first.recordLength < recordsLength rest := by omega
      obtain ⟨front, i, back, n, rfl, place, within⟩ := ih behind
      refine ⟨first :: front, i, back, n, rfl, ?_, within⟩
      rw [recordsLength_cons]
      omega

/-- A plan that is cut off some bytes into a record: the records before it are read, and the reader
stops at the header or at the calldata of the one that is cut. -/
theorem decodePlan_take {front back : List Instruction} {n : Nat}
    (h : List.Forall₂ (Delimits layout) parts (front ++ i :: back)) (within : n < i.recordLength) :
    decodePlan layout (parts.flatten.take (recordsLength front + n)) =
      if n = 0 then .ok front
      else if n < headerLength then .error (.truncated (recordsLength front) headerLength n)
      else .error (.truncated (recordsLength front + headerLength) i.calldata.length
        (n - headerLength)) := by
  obtain ⟨first, part, last, rfl, earlier, delimits, _⟩ := forall₂_append_cons h.flip
  have records : List.Forall₂ (Delimits layout) first front := earlier.flip
  have size := length_flatten_of_delimits records
  have record : Delimits layout part i := delimits
  have long : n < part.length := by rw [record.2]; exact within
  have cut : (first ++ part :: last).flatten.take (recordsLength front + n) =
      first.flatten ++ part.take n := by
    rw [List.flatten_append, List.flatten_cons, ← size, List.take_length_add_append,
      List.take_append_of_le_length (Nat.le_of_lt long)]
  have through := decodePlanFrom_append records [] (part.take n)
  rw [List.nil_append, List.length_nil, Nat.zero_add] at through
  have total : (first.flatten ++ part.take n).length = recordsLength front + n := by
    rw [List.length_append, size, List.length_take, Nat.min_eq_left (Nat.le_of_lt long)]
  rw [decodePlan, cut, through]
  split
  · rename_i boundary
    rw [decodePlanFrom_of_le (by omega)]
    simp [Except.map]
  · have stops := record.decodeAt_take first.flatten within
    rw [size] at stops
    rw [decodePlanFrom, if_pos (by omega), stops]
    split <;> rfl

/-- A plan that is cut off between two records. -/
theorem decodePlan_take_boundary {front : List Instruction}
    (h : List.Forall₂ (Delimits layout) parts is) (before : front <+: is) :
    decodePlan layout (parts.flatten.take (recordsLength front)) = .ok front := by
  have records := List.forall₂_take front.length h
  rw [← List.prefix_iff_eq_take.1 before] at records
  have whole : parts.flatten = (parts.take front.length).flatten ++ (parts.drop front.length).flatten :=
    by rw [← List.flatten_append, List.take_append_drop]
  rw [whole, List.take_left' (length_flatten_of_delimits records), decodePlan_flatten records]

/-- The reader of plans always ends, after a number of rounds that the length of the byte string
bounds.  It reads exactly the strings of records that each read on their own, and of a plan that is
cut off it reads exactly the records before the cut, if the cut is where one of them ends, and else it
reports the header or the calldata in which the cut is. -/
theorem decodePlan_delimited (layout : HeaderLayout) (data : Bytes) :
    (∃ rounds, Walks layout data rounds 0 (decodePlan layout data) ∧
      headerLength * rounds < data.length + headerLength) ∧
    ∀ is, (decodePlan layout data = .ok is ↔
        ∃ parts, data = parts.flatten ∧ List.Forall₂ (Delimits layout) parts is) ∧
      (decodePlan layout data = .ok is → ∀ length < data.length,
        (∀ js, decodePlan layout (data.take length) = .ok js ↔
          js <+: is ∧ recordsLength js = length) ∧
        ∃ front i back n, is = front ++ i :: back ∧ length = recordsLength front + n ∧
          n < i.recordLength ∧
          decodePlan layout (data.take length) =
            if n = 0 then .ok front
            else if n < headerLength then
              .error (.truncated (recordsLength front) headerLength n)
            else .error (.truncated (recordsLength front + headerLength) i.calldata.length
              (n - headerLength))) := by
  refine ⟨exists_walks layout data 0, fun is => ⟨decodePlan_eq_ok_iff, fun read length inside => ?_⟩⟩
  obtain ⟨parts, rfl, records⟩ := decodePlan_eq_ok_iff.1 read
  rw [length_flatten_of_delimits records] at inside
  obtain ⟨front, i, back, n, rfl, rfl, within⟩ := exists_record_at inside
  have cut := decodePlan_take records within
  refine ⟨fun js => ⟨fun read => ?_, ?_⟩, front, i, back, n, rfl, rfl, within, cut⟩
  · rw [cut] at read
    split at read
    · rename_i boundary
      cases read
      exact ⟨List.prefix_append _ _, by rw [boundary, Nat.add_zero]⟩
    · split at read <;> cases read
  · rintro ⟨before, length⟩
    rw [← length]
    exact decodePlan_take_boundary records before

/-- Two records, the second of them cut off in its calldata, one byte behind its header. -/
theorem decodePlan_delimited_cut :
    let first : Instruction := ⟨.repeated 0x11, ⟨some 0, none, none, none⟩, none, ⟨0x0E00⟩, [1, 2]⟩
    let second : Instruction :=
      ⟨.repeated 0x22, ⟨none, none, some 1, none⟩, some 7, ⟨0x0B04⟩, [3, 4, 5]⟩
    let data := first.image .multiField ++ second.image .multiField
    decodePlan .multiField data = .ok [first, second] ∧
      decodePlan .multiField (data.take 62) = .ok [first] ∧
      decodePlan .multiField (data.take 123) = .error (.truncated 122 3 1) := by
  intro first second data
  have one : Delimits .multiField (first.image .multiField) (first.carried .multiField) :=
    delimits_image first .multiField (by decide) (by decide) (by decide)
  have other : Delimits .multiField (second.image .multiField) (second.carried .multiField) :=
    delimits_image second .multiField (by decide) (by decide) (by decide)
  have kept : first.carried .multiField = first ∧ second.carried .multiField = second := by decide
  rw [kept.1] at one
  rw [kept.2] at other
  have records : List.Forall₂ (Delimits .multiField)
      [first.image .multiField, second.image .multiField] [first, second] :=
    .cons one (.cons other .nil)
  have whole : data = [first.image .multiField, second.image .multiField].flatten := by simp [data]
  have size : data.length = 125 := by
    rw [whole, length_flatten_of_delimits records]
    rfl
  have read : decodePlan .multiField data = .ok [first, second] :=
    ((decodePlan_delimited .multiField data).2 _).1.2 ⟨_, whole, records⟩
  have cuts := ((decodePlan_delimited .multiField data).2 _).2 read
  refine ⟨read, ((cuts 62 (by omega)).1 [first]).2 ⟨⟨[second], rfl⟩, rfl⟩, ?_⟩
  obtain ⟨front, i, back, n, split, place, within, stops⟩ := (cuts 123 (by omega)).2
  rcases List.cons_eq_append_iff.1 split with ⟨rfl, later⟩ | ⟨_, rfl, later⟩
  · cases later
    have : first.recordLength = 62 := rfl
    rw [recordsLength_nil] at place
    omega
  · rcases List.cons_eq_append_iff.1 later with ⟨rfl, later⟩ | ⟨_, rfl, later⟩
    · cases later
      have : recordsLength [first] = 62 := rfl
      obtain rfl : n = 61 := by omega
      exact stops
    · simp at later

end SwapPlan
