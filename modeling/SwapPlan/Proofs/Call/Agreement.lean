import SwapPlan.Call.Resolution
import SwapPlan.Proofs.Abi.Typing
import SwapPlan.Proofs.Outcome
/-!
# Resolution finds what the encoder wrote

The walk through the calldata of a call keeps to the encoding: at every step the head reached is
that of the elements of the value that the path has selected so far (`Frame.Shows`).  So the walk
ends at the word that the path selects in the arguments, where the encoder wrote it, and it ends there
whenever the path selects a word (`Frame.walk_eq_ok_iff`).
-/
set_option autoImplicit false

namespace SwapPlan

open AbiValue
open Bytes (StandsAt)

/-- The slots of values that stand in a head.  Of elements that take no room there may be more than
counted. -/
def Slots.Describe : Slots → List AbiValue → Prop
  | .components types, values => values.length = types.length ∧
      ∀ (i : Nat) (v : AbiValue) (t : AbiType),
        values[i]? = some v → types[i]? = some t → Inhabits v t
  | .elements type count, values => (∀ v ∈ values, Inhabits v type) ∧ count ≤ values.length ∧
      (0 < type.headSize → count = values.length)

namespace Slots.Describe

variable {slots : Slots} {values : List AbiValue} {index : Nat}

theorem exists_inhabits (h : slots.Describe values) : ∀ v ∈ values, ∃ t, Inhabits v t := by
  intro v mem
  cases slots with
  | components types =>
    obtain ⟨i, found⟩ := List.mem_iff_getElem?.1 mem
    obtain ⟨inside, _⟩ := List.getElem?_eq_some_iff.1 found
    have typed : i < types.length := h.1 ▸ inside
    exact ⟨types[i], h.2 i v _ found (List.getElem?_eq_getElem typed)⟩
  | elements type count => exact ⟨type, h.1 v mem⟩

theorem of_at? (h : slots.Describe values) {distance : Nat} {type : AbiType}
    (found : slots.at? index = some (distance, type)) :
    ∃ v, values[index]? = some v ∧ Inhabits v type ∧
      distance = headLength (values.take index) := by
  cases slots with
  | components types =>
    obtain ⟨length, each⟩ := h
    rw [Slots.at?, Option.map_eq_some_iff] at found
    obtain ⟨t, typed, same⟩ := found
    cases same
    obtain ⟨inside, _⟩ := List.getElem?_eq_some_iff.1 typed
    have value := List.getElem?_eq_getElem (length.symm ▸ inside : index < values.length)
    refine ⟨_, value, each index _ _ value typed, ?_⟩
    rw [headLength_eq_sum, AbiType.headSizes_eq_sum]
    refine congrArg List.sum (map_eq_map (by simp [length]) fun i t v ht hv => ?_)
    rw [List.getElem?_take] at ht hv
    split at ht
    · rw [if_pos ‹_›] at hv
      exact (each i v t hv ht).headSize_eq.symm
    · cases ht
  | elements type count =>
    obtain ⟨each, counted, _⟩ := h
    rw [Slots.at?] at found
    split at found
    · cases found
      have inside : index < values.length := by omega
      refine ⟨_, List.getElem?_eq_getElem inside, each _ (List.getElem_mem inside), ?_⟩
      rw [headLength_of_each fun v mem => (each v (List.mem_of_mem_take mem)).headSize_eq,
        List.length_take_of_le (Nat.le_of_lt inside)]
    · cases found

theorem exists_at? (h : slots.Describe values) {v : AbiValue} (found : values[index]? = some v)
    (room : 0 < v.part.headSize) : ∃ distance type, slots.at? index = some (distance, type) := by
  obtain ⟨inside, _⟩ := List.getElem?_eq_some_iff.1 found
  cases slots with
  | components types =>
    have typed : index < types.length := h.1 ▸ inside
    exact ⟨_, types[index], by rw [Slots.at?, List.getElem?_eq_getElem typed]; rfl⟩
  | elements type count =>
    obtain ⟨each, _, all⟩ := h
    rw [(each v (List.mem_of_getElem? found)).headSize_eq] at room
    exact ⟨_, type, by rw [Slots.at?, if_pos (all room ▸ inside)]⟩

theorem nil : (components []).Describe [] := ⟨rfl, nofun⟩

theorem cons {v : AbiValue} {t : AbiType} {rest : List AbiValue} {types : List AbiType}
    (first : Inhabits v t) (others : (components types).Describe rest) :
    (components (t :: types)).Describe (v :: rest) := by
  refine ⟨congrArg (· + 1) others.1, fun i w u hw hu => ?_⟩
  cases i with
  | zero =>
    rw [List.getElem?_cons_zero, Option.some.injEq] at hw hu
    subst hw hu
    exact first
  | succ i => exact others.2 i w u hw hu

theorem headLength_eq {types : List AbiType} (h : (components types).Describe values) :
    headLength values = AbiType.headSizes types := by
  rw [headLength_eq_sum, AbiType.headSizes_eq_sum,
    map_eq_map h.1 fun i v t hv ht => (h.2 i v t hv ht).headSize_eq]

theorem writtenAt_word {types : List AbiType} (h : (components types).Describe values)
    {v : AbiValue} (value : values[index]? = some v) (isWord : v.isWord = true) :
    writtenAt values index [] = AbiType.headSizes (types.take index) := by
  obtain ⟨inside, _⟩ := List.getElem?_eq_some_iff.1 value
  have typed := List.getElem?_eq_getElem (h.1 ▸ inside : index < types.length)
  obtain ⟨_, _, _, same⟩ := h.of_at? (by rw [Slots.at?, typed]; rfl)
  rw [same, writtenAt, start, value, Option.any_some, isDynamic_of_isWord isWord]
  rfl

theorem writtenAt_first {types : List AbiType} (h : (components types).Describe values)
    {first : AbiValue} {rest : List AbiValue} (value : values[index]? = some (.array (first :: rest)))
    (isWord : first.isWord = true) (words : anyDynamic (values.take index) = false) :
    writtenAt values index [0] = AbiType.headSizes types + Word.size := by
  have begin : start values index = AbiType.headSizes types := by
    rw [start, value, tails_of_static words, h.headLength_eq]
    rfl
  have front : start (first :: rest) 0 = 0 := by
    rw [start, List.getElem?_cons_zero, Option.any_some, isDynamic_of_isWord isWord]
    rfl
  rw [writtenAt, value, Option.elim_some, begin, lead, length_wordOf, AbiValue.elements,
    writtenAt, front]
  rfl

end Slots.Describe

/-- A head that is that of the encoding of a sequence of values. -/
structure Frame.Shows (calldata : Bytes) (frame : Frame) (values : List AbiValue) : Prop where
  stands : calldata.StandsAt frame.base (encode values)
  slots : frame.slots.Describe values

namespace Frame

variable {bits : Nat} {calldata : Bytes} {frame inner : Frame} {values : List AbiValue} {index : Nat}

theorem readWord_eq {position n : Nat} (stands : calldata.StandsAt position (wordOf n)) :
    readWord calldata position =
      if n % 2 ^ 256 ≤ calldata.length then .ok (n % 2 ^ 256)
      else .error (.pointerOutside position calldata.length) := by
  have read : calldata.slice? position Word.size = some (wordOf n) :=
    Bytes.slice?_eq_some_iff.2 ⟨stands, length_wordOf n⟩
  have number : ofBigEndian (wordOf n) = n % 2 ^ 256 := ofBigEndian_bigEndian _ _
  rw [readWord, read]
  simp only [number]

theorem readWord_eq_ok {position n : Nat} (short : calldata.length < 2 ^ 256)
    (stands : calldata.StandsAt position (wordOf n)) (inside : n ≤ calldata.length) :
    readWord calldata position = .ok n := by
  have small : n % 2 ^ 256 = n := Nat.mod_eq_of_lt (Nat.lt_of_le_of_lt inside short)
  rw [readWord_eq stands, small, if_pos inside]

/-- A slot does not stand behind the value that it leads to, so its position fits if that of the value
does. -/
theorem Shows.slot_eq (h : frame.Shows calldata values) {distance : Nat} {type : AbiType}
    (found : frame.slots.at? index = some (distance, type))
    (fits : frame.base + start values index < 2 ^ bits) :
    frame.slot bits index = .ok (frame.base + distance, type) := by
  obtain ⟨v, value, _, rfl⟩ := h.slots.of_at? found
  obtain ⟨before, after, rfl, rfl⟩ := exists_append_of_getElem? value
  have ahead := headLength_le_start before v after
  rw [slot, found]
  simp only [List.take_left' rfl, Nat.pow_eq]
  rw [Nat.mod_eq_of_lt (by omega)]

theorem Shows.valueStart_eq (h : frame.Shows calldata values) (short : calldata.length < 2 ^ 256)
    {distance : Nat} {type : AbiType} (found : frame.slots.at? index = some (distance, type))
    (fits : frame.base + start values index < 2 ^ bits) :
    frame.valueStart bits calldata index = .ok (frame.base + start values index, type) := by
  have slot := h.slot_eq found fits
  obtain ⟨v, value, typed, rfl⟩ := h.slots.of_at? found
  obtain ⟨before, after, rfl, rfl⟩ := exists_append_of_getElem? value
  rw [valueStart, slot]
  simp only [Outcome.ok_bind, List.take_left' rfl]
  cases dynamic : type.isDynamic with
  | false =>
    have static := typed.isDynamic_eq.trans dynamic
    rw [start_append, static]
    rfl
  | true =>
    have inTail := typed.isDynamic_eq.trans dynamic
    have pointer := h.stands.trans (pointer_standsAt before after inTail)
    have target := (h.stands.trans (body_standsAt before v after)).le
    have read := readWord_eq_ok short pointer (by omega)
    have ahead : advance calldata frame.base (start (before ++ v :: after) before.length) =
        .ok (frame.base + start (before ++ v :: after) before.length) := by
      rw [advance, if_pos (by omega)]
    simp only [if_true, read, Outcome.ok_bind, ahead]
    rfl

theorem Shows.body_standsAt (h : frame.Shows calldata values) {v : AbiValue}
    (value : values[index]? = some v) :
    calldata.StandsAt (frame.base + start values index) v.body := by
  obtain ⟨before, after, rfl, rfl⟩ := exists_append_of_getElem? value
  exact h.stands.trans (AbiValue.body_standsAt before v after)

/-- Entering a value leads to the head of its elements, unless none of them takes room. -/
theorem Shows.enter_cases (h : frame.Shows calldata values) (short : calldata.length < 2 ^ 256)
    {distance : Nat} {type : AbiType} (found : frame.slots.at? index = some (distance, type))
    (fits : frame.base + start values index < 2 ^ bits)
    {v : AbiValue} (value : values[index]? = some v) (typed : Inhabits v type) :
    (∃ inner, frame.enter bits calldata index = .ok inner ∧ inner.Shows calldata v.elements ∧
      inner.base = frame.base + start values index + v.lead.length) ∨
    (∃ e, frame.enter bits calldata index = .error e) ∧ ∀ w ∈ v.elements, w.part.headSize = 0 := by
  have stands := h.body_standsAt value
  rw [enter, h.valueStart_eq short found fits, Outcome.ok_bind]
  generalize frame.base + start values index = position at stands
  cases typed with
  | word isWord isWordType _ =>
    refine .inr ⟨?_, by simp [elements_of_isWord isWord]⟩
    cases type <;> first | exact ⟨_, rfl⟩ | cases isWordType
  | string value => exact .inr ⟨⟨_, rfl⟩, nofun⟩
  | bytes value => exact .inr ⟨⟨_, rfl⟩, nofun⟩
  | @fixedArray items item each settled =>
    exact .inl ⟨_, rfl, ⟨stands, each, Nat.le_refl _, fun _ => rfl⟩, rfl⟩
  | @tuple components types length each =>
    exact .inl ⟨_, rfl, ⟨stands, length, each⟩, rfl⟩
  | @array items item each =>
    have count : calldata.StandsAt position (wordOf items.length) :=
      stands.trans ⟨[], encode items, rfl, rfl⟩
    have content : calldata.StandsAt (position + Word.size) (encode items) :=
      stands.trans ⟨wordOf items.length, [], by simp [body, encode], length_wordOf _⟩
    -- The count is read back modulo `2 ^ 256`.  It is exact where the items take room in the call;
    -- where they take none, no path through them ends on a word.
    have room := headLength_of_each fun v mem => (each v mem).headSize_eq
    have inside := Nat.le_trans (headLength_le items) (Nat.le_of_add_left_le content.le)
    rw [room] at inside
    have counted : items.length % 2 ^ 256 ≤ items.length := Nat.mod_le _ _
    have exact : 0 < item.headSize → items.length % 2 ^ 256 = items.length := fun positive =>
      Nat.mod_eq_of_lt (Nat.lt_of_le_of_lt
        (Nat.le_trans (Nat.le_mul_of_pos_right _ positive) inside) short)
    have bound : position + Word.size + items.length % 2 ^ 256 * (item.headSize % 2 ^ bits) ≤
        calldata.length := by
      have fewer := Nat.mul_le_mul counted (Nat.mod_le item.headSize (2 ^ bits))
      have whole := content.le
      have held := headLength_le items
      omega
    simp only [readWord_eq count, Nat.pow_eq]
    by_cases small : items.length % 2 ^ 256 ≤ calldata.length
    · rw [if_pos small, Outcome.ok_bind, advance, if_pos bound]
      exact .inl ⟨_, rfl, ⟨content, each, counted, exact⟩, by rw [lead, length_wordOf]⟩
    · rw [if_neg small]
      refine .inr ⟨⟨_, rfl⟩, fun w mem => ?_⟩
      rw [(each w mem).headSize_eq]
      rcases Nat.eq_zero_or_pos item.headSize with none | positive
      · exact none
      · have all := Nat.le_mul_of_pos_right items.length positive
        rw [exact positive] at small
        omega

theorem at?_of_enter (h : frame.enter bits calldata index = .ok inner) :
    ∃ distance type, frame.slots.at? index = some (distance, type) := by
  cases found : frame.slots.at? index with
  | none =>
    rw [enter, valueStart, slot, found] at h
    cases h
  | some slot => exact ⟨slot.1, slot.2, rfl⟩

theorem at?_of_word {offset : Nat} (h : frame.word bits calldata index = .ok offset) :
    ∃ distance type, frame.slots.at? index = some (distance, type) := by
  cases found : frame.slots.at? index with
  | none =>
    rw [word, slot, found] at h
    cases h
  | some slot => exact ⟨slot.1, slot.2, rfl⟩

theorem Shows.word_eq (h : frame.Shows calldata values) {distance : Nat} {type : AbiType}
    (found : frame.slots.at? index = some (distance, type))
    (fits : frame.base + start values index < 2 ^ bits) {v : AbiValue}
    (value : values[index]? = some v) (typed : Inhabits v type) :
    frame.word bits calldata index =
      if v.isWord then .ok (frame.base + start values index) else .error (.notAWord type) := by
  rw [word, h.slot_eq found fits]
  simp only [Outcome.ok_bind, ← typed.isWord_eq]
  cases isWord : v.isWord with
  | false => rfl
  | true =>
    have inside := (h.body_standsAt value).le
    rw [typed.length_body isWord] at inside
    have place : distance = start values index := by
      obtain ⟨_, _, _, rfl⟩ := h.slots.of_at? found
      obtain ⟨before, after, rfl, rfl⟩ := exists_append_of_getElem? value
      rw [start_append, if_neg (by simp [isDynamic_of_isWord isWord]), List.take_left' rfl]
    have fitting := Nat.le_trans (Nat.mod_le _ (2 ^ bits)) inside
    simp only [if_true, place, Nat.pow_eq, if_pos fitting]
    rfl

/-- In memory no value starts behind the largest number. -/
theorem Shows.start_lt (h : frame.Shows calldata values) (memory : calldata.length < 2 ^ bits)
    {v : AbiValue} (value : values[index]? = some v) :
    frame.base + start values index < 2 ^ bits :=
  Nat.lt_of_le_of_lt (Nat.le_of_add_right_le (h.body_standsAt value).le) memory

/-- Where the walk ends, the path selects a word, and the encoder wrote it there. -/
theorem Shows.select_of_walk (short : calldata.length < 2 ^ 256)
    (memory : calldata.length < 2 ^ bits) {rest : List Nat} {offset : Nat}
    (h : frame.Shows calldata values) (ok : frame.walk bits calldata index rest = .ok offset) :
    ∃ leaf, select values index rest = some leaf ∧ leaf.isWord = true ∧
      offset = frame.base + writtenAt values index rest := by
  induction rest generalizing frame values index with
  | nil =>
    obtain ⟨distance, type, found⟩ := at?_of_word ok
    obtain ⟨v, value, typed, _⟩ := h.slots.of_at? found
    rw [walk, h.word_eq found (h.start_lt memory value) value typed] at ok
    split at ok
    · cases ok
      exact ⟨v, value, ‹_›, rfl⟩
    · cases ok
  | cons next rest ih =>
    rw [walk, Outcome.bind_eq_ok] at ok
    obtain ⟨inner, entered, ok⟩ := ok
    obtain ⟨distance, type, found⟩ := at?_of_enter entered
    obtain ⟨v, value, typed, _⟩ := h.slots.of_at? found
    -- What the walk carries along: the frame shows the values that the path passes through.
    rcases h.enter_cases short found (h.start_lt memory value) value typed with
      ⟨_, same, shows, base⟩ | ⟨⟨_, failed⟩, _⟩
    · rw [entered] at same
      cases same
      obtain ⟨leaf, selected, isWord, rfl⟩ := ih shows ok
      refine ⟨leaf, ?_, isWord, ?_⟩
      · rw [select, value, Option.bind_some, selected]
      · rw [base, writtenAt, value, Option.elim_some]
        omega
    · rw [entered] at failed
      cases failed

/-- The walk ends wherever the path selects a word that is written in reach of the numbers. -/
theorem Shows.walk_of_select (short : calldata.length < 2 ^ 256) {rest : List Nat}
    {leaf : AbiValue} (h : frame.Shows calldata values)
    (selected : select values index rest = some leaf) (isWord : leaf.isWord = true)
    (fits : frame.base + writtenAt values index rest < 2 ^ bits) :
    frame.walk bits calldata index rest = .ok (frame.base + writtenAt values index rest) := by
  induction rest generalizing frame values index with
  | nil =>
    obtain ⟨t, inhabited⟩ := inhabits_select h.slots.exists_inhabits selected
    have room := headSize_pos selected selected (inhabited.length_body isWord ▸ Nat.succ_pos _)
    obtain ⟨distance, type, found⟩ := h.slots.exists_at? selected room
    obtain ⟨v, value, typed, _⟩ := h.slots.of_at? found
    cases selected.symm.trans value
    rw [walk, h.word_eq found fits value typed, if_pos isWord, writtenAt]
  | cons next rest ih =>
    obtain ⟨t, inhabited⟩ := inhabits_select h.slots.exists_inhabits selected
    have positive : 0 < leaf.body.length := inhabited.length_body isWord ▸ Nat.succ_pos _
    have path := selected
    rw [select, Option.bind_eq_some_iff] at path
    obtain ⟨v, value, below⟩ := path
    obtain ⟨distance, type, found⟩ := h.slots.exists_at? value (headSize_pos value selected positive)
    obtain ⟨_, same, typed, _⟩ := h.slots.of_at? found
    cases value.symm.trans same
    rw [writtenAt, value, Option.elim_some] at fits ⊢
    have reached : frame.base + start values index < 2 ^ bits := by omega
    rcases h.enter_cases short found reached value typed with
      ⟨inner, entered, shows, base⟩ | ⟨_, empty⟩
    · have position : frame.base + (start values index +
          (v.lead.length + writtenAt v.elements next rest)) =
          inner.base + writtenAt v.elements next rest := by omega
      rw [walk, entered, Outcome.ok_bind, position, ih shows below (position ▸ fits)]
    · obtain ⟨w, first⟩ := exists_getElem?_of_select below
      exact absurd (empty w (List.mem_of_getElem? first))
        (Nat.ne_of_gt (headSize_pos first below positive))

theorem Shows.walk_eq_ok_iff (h : frame.Shows calldata values) (short : calldata.length < 2 ^ 256)
    (memory : calldata.length < 2 ^ bits) {rest : List Nat} {offset : Nat} :
    frame.walk bits calldata index rest = .ok offset ↔
      ∃ leaf, select values index rest = some leaf ∧ leaf.isWord = true ∧
        offset = frame.base + writtenAt values index rest := by
  constructor
  · exact h.select_of_walk short memory
  · rintro ⟨leaf, selected, isWord, rfl⟩
    have inside := (h.stands.trans (standsAt_writtenAt selected)).le
    exact h.walk_of_select short selected isWord (by omega)

end Frame

namespace Function

variable {bits : Nat} {f : Function} {arguments : List AbiValue}

theorem call_eq_ok_iff {calldata : Bytes} :
    f.call arguments = .ok calldata ↔
      argumentsFit arguments f.inputTypes = true ∧ calldata = f.selector ++ encode arguments := by
  rw [Function.call]
  split
  · rename_i fit
    simp [fit, eq_comm]
  · rename_i misfit
    split <;> simp [misfit]

theorem checkSelector_append (f : Function) (bytes : Bytes) :
    f.checkSelector (f.selector ++ bytes) = .ok () := by
  rw [checkSelector, if_pos]
  exact List.take_left' f.length_selector

/-- A call of a function shows the arguments, which are values without gaps of its parameters. -/
theorem shows_call (typed : (Slots.components f.inputTypes).Describe arguments) :
    f.frame.Shows (f.selector ++ encode arguments) arguments :=
  ⟨⟨f.selector, [], by simp, f.length_selector⟩, typed⟩

theorem offset_eq_ok_iff (typed : (Slots.components f.inputTypes).Describe arguments)
    (wide : bits ≤ 256) (short : (f.selector ++ encode arguments).length < 2 ^ bits)
    {path : SlotPath} {offset : Nat} :
    f.offset (f.selector ++ encode arguments) path bits = .ok offset ↔
      ∃ leaf, select arguments path.argument path.inner = some leaf ∧ leaf.isWord = true ∧
        offset = selectorLength + writtenAt arguments path.argument path.inner := by
  rw [Function.offset, f.checkSelector_append, Outcome.ok_bind]
  exact (shows_call typed).walk_eq_ok_iff
    (Nat.lt_of_lt_of_le short (Nat.pow_le_pow_right (by decide) wide)) short

theorem offset_of_select (typed : (Slots.components f.inputTypes).Describe arguments)
    (short : (f.selector ++ encode arguments).length < 2 ^ 256) {path : SlotPath}
    {leaf : AbiValue} (selected : select arguments path.argument path.inner = some leaf)
    (isWord : leaf.isWord = true)
    (fits : selectorLength + writtenAt arguments path.argument path.inner < 2 ^ bits) :
    f.offset (f.selector ++ encode arguments) path bits =
      .ok (selectorLength + writtenAt arguments path.argument path.inner) := by
  rw [Function.offset, f.checkSelector_append, Outcome.ok_bind]
  exact (shows_call typed).walk_of_select short selected isWord fits

theorem slice?_call (typed : (Slots.components f.inputTypes).Describe arguments) (path : SlotPath)
    {leaf : AbiValue} (selected : select arguments path.argument path.inner = some leaf)
    (isWord : leaf.isWord = true) :
    (f.selector ++ encode arguments).slice?
        (selectorLength + writtenAt arguments path.argument path.inner) Word.size =
      some leaf.body := by
  obtain ⟨t, inhabited⟩ := inhabits_select typed.exists_inhabits selected
  rw [Bytes.slice?_eq_some_iff]
  exact ⟨(shows_call typed).stands.trans (standsAt_writtenAt selected), inhabited.length_body isWord⟩

/-- Another word among the arguments changes the call where the word was written, and nowhere
else. -/
theorem call_replace (typed : (Slots.components f.inputTypes).Describe arguments) (path : SlotPath)
    {leaf new : AbiValue} (selected : select arguments path.argument path.inner = some leaf)
    (isWord : leaf.isWord = true) (newWord : new.isWord = true)
    (newSize : new.body.length = Word.size) :
    f.selector ++ encode (replace new arguments path.argument path.inner) =
      (f.selector ++ encode arguments).overwrite
        (selectorLength + writtenAt arguments path.argument path.inner) new.body := by
  obtain ⟨t, inhabited⟩ := inhabits_select typed.exists_inhabits selected
  have size := newSize.trans (inhabited.length_body isWord).symm
  have dynamic := (isDynamic_of_isWord newWord).trans (isDynamic_of_isWord isWord).symm
  obtain ⟨_, _, left, right, position, encoded, changed⟩ := encode_replace selected dynamic size
  have place : selectorLength + writtenAt arguments path.argument path.inner =
      (f.selector ++ left).length := by
    rw [List.length_append, f.length_selector, position]
  rw [changed, encoded, place, ← List.append_assoc, ← List.append_assoc, ← List.append_assoc,
    ← List.append_assoc, Bytes.overwrite_append size]

/-- In a call whose tuples have all their components, an offset resolves exactly if its path selects a
word among the arguments.  It is the offset where the encoder wrote the word: the word stands there,
and another word among the arguments would change the call there and nowhere else. -/
theorem offset_call {calldata : Bytes} (called : f.call arguments = .ok calldata)
    (regular : AbiType.allRegular f.inputTypes = true)
    (complete : eachComplete arguments f.inputTypes = true)
    (full : anyEmptyBytes arguments = false) (wide : bits ≤ 256)
    (short : calldata.length < 2 ^ bits) (path : SlotPath) :
    (∀ offset, f.offset calldata path bits = .ok offset ↔
      ∃ leaf, select arguments path.argument path.inner = some leaf ∧ leaf.isWord = true ∧
        offset = selectorLength + writtenAt arguments path.argument path.inner) ∧
    (∀ offset, f.offset calldata path bits = .ok offset →
      ∃ leaf, select arguments path.argument path.inner = some leaf ∧
        calldata.slice? offset Word.size = some leaf.body ∧
        ∀ new : AbiValue, new.isWord = true → new.body.length = Word.size →
          f.selector ++ encode (replace new arguments path.argument path.inner) =
            calldata.overwrite offset new.body) := by
  obtain ⟨fit, rfl⟩ := call_eq_ok_iff.1 called
  rw [argumentsFit, Bool.and_eq_true, decide_eq_true_eq] at fit
  have typed : (Slots.components f.inputTypes).Describe arguments :=
    ⟨fit.1, inhabits_of_prefixFits arguments f.inputTypes fit.2 regular complete full⟩
  refine ⟨fun offset => offset_eq_ok_iff typed wide short, fun offset ok => ?_⟩
  obtain ⟨leaf, selected, isWord, rfl⟩ := (offset_eq_ok_iff typed wide short).1 ok
  exact ⟨leaf, selected, slice?_call typed path selected isWord, fun _ newWord newSize =>
    call_replace typed path selected isWord newWord newSize⟩

/-- The second address of a list inside a tuple, behind two pointers. -/
theorem offset_call_nested :
    let f : Function := ⟨"f", [⟨"", .tuple [.uint 256, .array .address]⟩, ⟨"", .bytes⟩], [],
      .nonPayable⟩
    let arguments : List AbiValue := [.tuple [.uint .one,
      .array [.address (.repeated 1), .address (.repeated 2)]], .bytes [1, 2, 3]]
    f.call arguments = .ok (f.selector ++ encode arguments) ∧
      f.offset (f.selector ++ encode arguments) ⟨0, [1, 1]⟩ = .ok 196 := by
  intro f arguments
  have called : f.call arguments = .ok (f.selector ++ encode arguments) := if_pos (by decide)
  have size : (encode arguments).length = 288 := by decide +kernel
  have short : (f.selector ++ encode arguments).length < 2 ^ 64 := by
    rw [List.length_append, f.length_selector, size]
    decide
  refine ⟨called, ?_⟩
  rw [(offset_call called (by decide) (by decide) (by decide) (by decide) short ⟨0, [1, 1]⟩).1]
  exact ⟨.address (.repeated 2), rfl, rfl, rfl⟩

/-- Where a tuple lacks components, the next argument is not looked for where the encoder wrote it. -/
theorem offset_short_tuple :
    let f : Function := ⟨"f", [⟨"", .tuple [.uint 256, .uint 256]⟩, ⟨"", .uint 256⟩], [],
      .nonPayable⟩
    let arguments : List AbiValue := [.tuple [.uint .one], .uint ⟨7, by decide⟩]
    f.call arguments = .ok (f.selector ++ encode arguments) ∧
      AbiType.allRegular f.inputTypes = true ∧ anyEmptyBytes arguments = false ∧
      select arguments 1 [] = some (.uint ⟨7, by decide⟩) ∧ writtenAt arguments 1 [] = 32 ∧
      ∀ offset, f.offset (f.selector ++ encode arguments) ⟨1, []⟩ ≠ .ok offset := by
  intro f arguments
  have called : f.call arguments = .ok (f.selector ++ encode arguments) := if_pos (by decide)
  have length : (f.selector ++ encode arguments).length = 68 := by
    rw [List.length_append, f.length_selector]
    decide
  refine ⟨called, by decide, by decide, rfl, by decide, fun offset resolved => ?_⟩
  rw [Function.offset, f.checkSelector_append, Outcome.ok_bind] at resolved
  have outside : f.frame.word 64 (f.selector ++ encode arguments) 1 =
      .error (.pointerOutside 68 68) := by
    have slot : f.frame.slot 64 1 = .ok (68, .uint 256) := rfl
    rw [Frame.word, slot, Outcome.ok_bind]
    simp [AbiType.isWord, length, Word.size]
  rw [Frame.walk, outside] at resolved
  cases resolved

end Function
end SwapPlan
