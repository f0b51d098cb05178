import SwapPlan.Proofs.Abi.Replacement
import SwapPlan.Proofs.Call.Agreement
/-!
# Slots do not interfere

Overwriting the word at a resolved offset is calling the function with another word at the path, and it
touches no other word: all paths resolve as before, and their words do not overlap
(`Function.offset_independent`).
-/
set_option autoImplicit false

namespace SwapPlan

open AbiValue

theorem Slots.describe_components_iff {types : List AbiType} {values : List AbiValue} :
    (Slots.components types).Describe values ↔
      values.length = types.length ∧ Each Inhabits (types[·]?) values := by
  rw [Describe]
  apply and_congr_right
  intro length
  constructor
  · intro each index v found
    obtain ⟨inside, _⟩ := List.getElem?_eq_some_iff.1 found
    have typed := List.getElem?_eq_getElem (length ▸ inside : index < types.length)
    exact ⟨_, typed, each index v _ found typed⟩
  · intro each index v t found typed
    obtain ⟨_, same, inhabited⟩ := each index v found
    cases typed.symm.trans same
    exact inhabited

theorem AbiValue.isComplete_of_isWord {v : AbiValue} {t : AbiType} (h : t.isWord = true) :
    v.isComplete t = true := by
  cases t <;> first | (cases v <;> rfl) | cases h

theorem AbiValue.exists_word {bytes : Bytes} (length : bytes.length = Word.size) :
    ∃ v : AbiValue, v.isWord = true ∧ v.body = bytes := by
  refine ⟨.uint ⟨ofBigEndian bytes, length ▸ ofBigEndian_lt bytes⟩, rfl, ?_⟩
  have written := bigEndian_ofBigEndian bytes
  rw [length] at written
  exact written

namespace Function

variable {bits : Nat} {f : Function} {arguments : List AbiValue} {path other : SlotPath}
  {leaf new target : AbiValue}

def typeAt (f : Function) (path : SlotPath) : Option AbiType :=
  f.inputTypes[path.argument]?.bind fun t => t.along path.inner

theorem isRegular_typeAt {t : AbiType} (regular : AbiType.allRegular f.inputTypes = true)
    (typed : f.typeAt path = some t) : t.isRegular = true := by
  rw [typeAt, Option.bind_eq_some_iff] at typed
  obtain ⟨u, found, along⟩ := typed
  exact AbiType.isRegular_along (AbiType.isRegular_of_getElem? regular found) along

theorem describe_replace (typed : (Slots.components f.inputTypes).Describe arguments)
    (selected : select arguments path.argument path.inner = some leaf) (isWord : leaf.isWord = true)
    (newWord : new.isWord = true) (newSize : new.body.length = Word.size) :
    (Slots.components f.inputTypes).Describe
      (replace new arguments path.argument path.inner) := by
  rw [Slots.describe_components_iff] at typed ⊢
  obtain ⟨t, along, inhabited⟩ := compositional_inhabits.select typed.2 selected
  have type : t.isWord = true := inhabited.isWord_eq ▸ isWord
  -- Any word inhabits any word type, so the new one need not fit the type of the old one.
  exact ⟨length_replace.trans typed.1,
    compositional_inhabits.replace typed.2 selected along (.word newWord type newSize)⟩

theorem call_replace_eq_ok {calldata : Bytes} {t : AbiType}
    (called : f.call arguments = .ok calldata)
    (selected : select arguments path.argument path.inner = some leaf)
    (typed : f.typeAt path = some t) (fit : new.fits t = true) :
    f.call (replace new arguments path.argument path.inner) =
      .ok (f.selector ++ encode (replace new arguments path.argument path.inner)) := by
  obtain ⟨fits, _⟩ := call_eq_ok_iff.1 called
  rw [argumentsFit_iff] at fits
  refine call_eq_ok_iff.2 ⟨argumentsFit_iff.2 ⟨length_replace.trans fits.1, ?_⟩, rfl⟩
  exact compositional_fits.replace fits.2 selected typed fit

/-- With another word at a path, all paths to words resolve as before, and the words of the other ones
are what they were. -/
theorem offset_replace (typed : (Slots.components f.inputTypes).Describe arguments)
    (wide : bits ≤ 256)
    (short : (f.selector ++ encode (replace new arguments path.argument path.inner)).length < 2 ^ bits)
    (selected : select arguments path.argument path.inner = some leaf) (isWord : leaf.isWord = true)
    (newWord : new.isWord = true) (newSize : new.body.length = Word.size)
    (targeted : select arguments other.argument other.inner = some target)
    (targetWord : target.isWord = true) :
    f.offset (f.selector ++ encode (replace new arguments path.argument path.inner)) other bits =
        .ok (selectorLength + writtenAt arguments other.argument other.inner) ∧
      (other ≠ path →
        (f.selector ++ encode (replace new arguments path.argument path.inner)).slice?
            (selectorLength + writtenAt arguments other.argument other.inner) Word.size =
          some target.body) := by
  have retyped := describe_replace typed selected isWord newWord newSize
  obtain ⟨t, inhabited⟩ := inhabits_select typed.exists_inhabits selected
  have dynamic := (isDynamic_of_isWord newWord).trans (isDynamic_of_isWord isWord).symm
  have size := newSize.trans (inhabited.length_body isWord).symm
  have unmoved := writtenAt_replace selected isWord dynamic size targeted
  rw [offset_eq_ok_iff retyped wide short, ← unmoved]
  by_cases here : other = path
  · subst here
    exact ⟨⟨new, select_replace_self selected, newWord, rfl⟩, fun distinct => absurd rfl distinct⟩
  · have kept : select (replace new arguments path.argument path.inner) other.argument
        other.inner = some target := by
      apply select_replace_of_ne selected isWord targeted targetWord
      intro argument inner
      obtain ⟨i, is⟩ := path
      obtain ⟨j, js⟩ := other
      cases argument
      cases inner
      exact here rfl
    exact ⟨⟨target, kept, targetWord, rfl⟩, fun _ => slice?_call retyped other kept targetWord⟩

theorem le_of_select (typed : (Slots.components f.inputTypes).Describe arguments)
    (selected : select arguments path.argument path.inner = some leaf)
    (isWord : leaf.isWord = true) :
    selectorLength + writtenAt arguments path.argument path.inner + Word.size ≤
      (f.selector ++ encode arguments).length := by
  obtain ⟨stands, size⟩ := Bytes.slice?_eq_some_iff.1 (slice?_call typed path selected isWord)
  rw [← size]
  exact stands.le

/-- Whatever is written over the word at a path, all paths to words resolve as before, and the words
of the other ones are what they were. -/
theorem offset_overwrite (typed : (Slots.components f.inputTypes).Describe arguments)
    (wide : bits ≤ 256) (short : (f.selector ++ encode arguments).length < 2 ^ bits)
    (selected : select arguments path.argument path.inner = some leaf) (isWord : leaf.isWord = true)
    (targeted : select arguments other.argument other.inner = some target)
    (targetWord : target.isWord = true) {bytes : Bytes} (size : bytes.length = Word.size) :
    f.offset ((f.selector ++ encode arguments).overwrite
          (selectorLength + writtenAt arguments path.argument path.inner) bytes) other bits =
        .ok (selectorLength + writtenAt arguments other.argument other.inner) ∧
      (other ≠ path →
        ((f.selector ++ encode arguments).overwrite
          (selectorLength + writtenAt arguments path.argument path.inner) bytes).slice?
            (selectorLength + writtenAt arguments other.argument other.inner) Word.size =
          some target.body) := by
  obtain ⟨new, newWord, rfl⟩ := exists_word size
  have room := le_of_select typed selected isWord
  rw [← size] at room
  have length := Bytes.length_overwrite room
  rw [← call_replace typed path selected isWord newWord size] at length ⊢
  exact offset_replace typed wide (length ▸ short) selected isWord newWord size targeted targetWord

theorem words_apart (typed : (Slots.components f.inputTypes).Describe arguments)
    (wide : bits ≤ 256) (short : (f.selector ++ encode arguments).length < 2 ^ bits)
    (selected : select arguments path.argument path.inner = some leaf) (isWord : leaf.isWord = true)
    (targeted : select arguments other.argument other.inner = some target)
    (targetWord : target.isWord = true) (distinct : other ≠ path) :
    selectorLength + writtenAt arguments path.argument path.inner + Word.size ≤
        selectorLength + writtenAt arguments other.argument other.inner ∨
      selectorLength + writtenAt arguments other.argument other.inner + Word.size ≤
        selectorLength + writtenAt arguments path.argument path.inner := by
  have positive : 0 < Word.size := Nat.succ_pos 31
  -- Nothing about the layout is needed: the word at the one path stays whatever stands at the other.
  apply Bytes.apart_of_slice?_overwrite positive (le_of_select typed selected isWord)
    (le_of_select typed targeted targetWord)
  intro bytes size
  rw [slice?_call typed other targeted targetWord]
  exact (offset_overwrite typed wide short selected isWord targeted targetWord size).2 distinct

/-- The word at a resolved offset is an argument of its own.  In a call whose tuples have all their
components, overwriting it by the word of a value of its type gives the call with that value at the
path.  Whatever is written there, every path to a word resolves as before, and the words of the other
paths stay what they are; they do not overlap it. -/
theorem offset_independent {calldata : Bytes} {offset : Nat}
    (called : f.call arguments = .ok calldata)
    (regular : AbiType.allRegular f.inputTypes = true)
    (complete : eachComplete arguments f.inputTypes = true)
    (full : anyEmptyBytes arguments = false) (wide : bits ≤ 256)
    (short : calldata.length < 2 ^ bits) (resolved : f.offset calldata path bits = .ok offset) :
    (∃ leaf t, select arguments path.argument path.inner = some leaf ∧ f.typeAt path = some t ∧
      leaf.fits t = true ∧ ∀ new : AbiValue, new.fits t = true → new.hasEmptyBytes = false →
        f.call (replace new arguments path.argument path.inner) =
          .ok (calldata.overwrite offset new.body)) ∧
    ∀ (other : SlotPath) (target : AbiValue),
      select arguments other.argument other.inner = some target → target.isWord = true →
      ∃ place, f.offset calldata other bits = .ok place ∧
        (∀ bytes : Bytes, bytes.length = Word.size →
          f.offset (calldata.overwrite offset bytes) other bits = .ok place ∧
          (other ≠ path →
            (calldata.overwrite offset bytes).slice? place Word.size = some target.body)) ∧
        (other ≠ path → offset + Word.size ≤ place ∨ place + Word.size ≤ offset) := by
  obtain ⟨fit, rfl⟩ := call_eq_ok_iff.1 called
  rw [argumentsFit_iff] at fit
  have typed : (Slots.components f.inputTypes).Describe arguments := ⟨fit.1,
    inhabits_of_prefixFits arguments f.inputTypes (prefixFits_iff.2 fit.2) regular complete full⟩
  obtain ⟨leaf, selected, isWord, rfl⟩ := (offset_eq_ok_iff typed wide short).1 resolved
  constructor
  · obtain ⟨t, along, fits⟩ := compositional_fits.select fit.2 selected
    refine ⟨leaf, t, selected, along, fits, ?_⟩
    intro new newFits nonempty
    have type : t.isWord = true := by
      obtain ⟨_, again, inhabited⟩ := compositional_inhabits.select
        (Slots.describe_components_iff.1 typed).2 selected
      cases along.symm.trans again
      exact inhabited.isWord_eq.symm.trans isWord
    have inhabited : Inhabits new t := inhabits_of_fits new t newFits
      (isRegular_typeAt regular along) (isComplete_of_isWord type) nonempty
    have newWord : new.isWord = true := inhabited.isWord_eq.trans type
    rw [call_replace_eq_ok called selected along newFits,
      call_replace typed path selected isWord newWord (inhabited.length_body newWord)]
  · intro other target targeted targetWord
    refine ⟨_, (offset_eq_ok_iff typed wide short).2 ⟨target, targeted, targetWord, rfl⟩, ?_, ?_⟩
    · exact fun bytes size =>
        offset_overwrite typed wide short selected isWord targeted targetWord size
    · exact words_apart typed wide short selected isWord targeted targetWord

/-- The second address of a list inside a tuple, behind two pointers, and the first one beside it. -/
theorem offset_independent_nested :
    let f : Function := ⟨"f", [⟨"", .tuple [.uint 256, .array .address]⟩, ⟨"", .bytes⟩], [],
      .nonPayable⟩
    let arguments : List AbiValue := [.tuple [.uint .one,
      .array [.address (.repeated 1), .address (.repeated 2)]], .bytes [1, 2, 3]]
    let calldata := f.selector ++ encode arguments
    f.call arguments = .ok calldata ∧ f.offset calldata ⟨0, [1, 1]⟩ = .ok 196 ∧
      f.call (replace (.address (.repeated 3)) arguments 0 [1, 1]) =
        .ok (calldata.overwrite 196 (AbiValue.address (.repeated 3)).body) ∧
      ∀ bytes : Bytes, bytes.length = Word.size →
        (calldata.overwrite 196 bytes).slice? 164 Word.size =
          some (AbiValue.address (.repeated 1)).body := by
  intro f arguments calldata
  have called : f.call arguments = .ok calldata := if_pos (by decide)
  have size : (encode arguments).length = 288 := by decide +kernel
  have short : calldata.length < 2 ^ 64 := by
    rw [List.length_append, f.length_selector, size]
    decide
  have typed : (Slots.components f.inputTypes).Describe arguments :=
    ⟨rfl, inhabits_of_prefixFits arguments f.inputTypes (by decide) (by decide) (by decide)
      (by decide)⟩
  have resolved : f.offset calldata ⟨0, [1, 1]⟩ = .ok 196 :=
    (offset_eq_ok_iff typed (by decide) short).2 ⟨.address (.repeated 2), rfl, rfl, rfl⟩
  obtain ⟨⟨_, t, _, along, _, replaced⟩, others⟩ :=
    offset_independent called (by decide) (by decide) (by decide) (by decide) short resolved
  cases along
  refine ⟨called, resolved, replaced _ rfl rfl, fun bytes length => ?_⟩
  obtain ⟨place, found, kept, _⟩ := others ⟨0, [1, 0]⟩ (.address (.repeated 1)) rfl rfl
  have first : f.offset calldata ⟨0, [1, 0]⟩ = .ok 164 :=
    (offset_eq_ok_iff typed (by decide) short).2 ⟨.address (.repeated 1), rfl, rfl, rfl⟩
  cases found.symm.trans first
  exact (kept bytes length).2 (by decide)

/-- Where a tuple lacks components, the offset of the next argument is that of the one behind it. -/
theorem overwrite_short_tuple :
    let f : Function := ⟨"f", [⟨"", .tuple [.uint 256, .uint 256]⟩, ⟨"", .uint 256⟩,
      ⟨"", .uint 256⟩], [], .nonPayable⟩
    let arguments : List AbiValue := [.tuple [.uint .one], .uint ⟨7, by decide⟩, .uint ⟨8, by decide⟩]
    let calldata := f.selector ++ encode arguments
    f.call arguments = .ok calldata ∧ AbiType.allRegular f.inputTypes = true ∧
      anyEmptyBytes arguments = false ∧ f.offset calldata ⟨1, []⟩ = .ok 68 ∧
      select arguments 1 [] = some (.uint ⟨7, by decide⟩) ∧ f.typeAt ⟨1, []⟩ = some (.uint 256) ∧
      f.call (replace (.uint .one) arguments 1 []) ≠ .ok (calldata.overwrite 68 Word.one.bytes) := by
  intro f arguments calldata
  have called : f.call arguments = .ok calldata := if_pos (by decide)
  have size : (encode arguments).length = 96 := by decide
  have length : calldata.length = 100 := by rw [List.length_append, f.length_selector, size]; rfl
  have resolved : f.offset calldata ⟨1, []⟩ = .ok 68 := by
    rw [Function.offset, f.checkSelector_append, Outcome.ok_bind]
    have slot : f.frame.slot 64 1 = .ok (68, .uint 256) := rfl
    have room : (68 + Word.size) % 2 ^ 64 ≤ calldata.length := length ▸ Nat.le_refl 100
    rw [Frame.walk, Frame.word, slot, Outcome.ok_bind]
    simp only [AbiType.isWord, if_true, Nat.pow_eq, if_pos room]
    rfl
  refine ⟨called, by decide, by decide, resolved, rfl, rfl, ?_⟩
  have changed : f.call (replace (.uint .one) arguments 1 []) =
      .ok (f.selector ++ encode (replace (.uint .one) arguments 1 [])) := if_pos (by decide)
  have inside : 64 + Word.one.bytes.length ≤ (encode arguments).length := by decide
  have whole := Bytes.overwrite_part f.selector [] inside
  rw [List.append_nil, List.append_nil, f.length_selector] at whole
  rw [changed]
  intro same
  rw [Except.ok.injEq] at same
  have bodies := List.append_cancel_left (same.trans whole)
  revert bodies
  decide

end Function
end SwapPlan
