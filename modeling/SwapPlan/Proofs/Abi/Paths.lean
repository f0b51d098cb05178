import SwapPlan.Proofs.Abi.Sequence
/-!
# Paths into argument values

A path selects an argument, then elements of arrays and components of tuples inside it.  The offset
at which the encoder writes what a path selects (`writtenAt`) is the one at which the encoding changes
when the selected word is replaced, and the only one (`encode_replace`).
-/
set_option autoImplicit false

namespace SwapPlan.AbiValue

open Bytes (StandsAt)

def elements : AbiValue → List AbiValue
  | array items => items
  | fixedArray items => items
  | tuple components => components
  | _ => []

def mapElements (f : List AbiValue → List AbiValue) : AbiValue → AbiValue
  | array items => array (f items)
  | fixedArray items => fixedArray (f items)
  | tuple components => tuple (f components)
  | v => v

/-- What stands in the body of a value before its elements: the length, for an array. -/
def lead : AbiValue → Bytes
  | array items => wordOf items.length
  | _ => []

def isWord : AbiValue → Bool
  | address _ => true
  | bool _ => true
  | fixedBytes _ => true
  | uint _ => true
  | int _ => true
  | _ => false

def select : List AbiValue → Nat → List Nat → Option AbiValue
  | values, index, [] => values[index]?
  | values, index, next :: rest => values[index]?.bind fun v => select v.elements next rest

def replace (new : AbiValue) : List AbiValue → Nat → List Nat → List AbiValue
  | values, index, [] => values.set index new
  | values, index, next :: rest =>
    values.modify index (mapElements fun inner => replace new inner next rest)

/-- Where the value at an index and further indices is written in the encoding of a sequence. -/
def writtenAt : List AbiValue → Nat → List Nat → Nat
  | values, index, [] => start values index
  | values, index, next :: rest =>
    start values index +
      values[index]?.elim 0 fun v => v.lead.length + writtenAt v.elements next rest

theorem body_of_elements {v : AbiValue} (h : v.elements ≠ []) :
    v.body = v.lead ++ encode v.elements := by
  cases v with
  | array items => rfl
  | fixedArray items => rfl
  | tuple components => rfl
  | _ => exact absurd rfl h

theorem body_mapElements {v : AbiValue} {f : List AbiValue → List AbiValue} (h : v.elements ≠ [])
    (length : (f v.elements).length = v.elements.length) :
    (v.mapElements f).body = v.lead ++ encode (f v.elements) := by
  cases v with
  | array items =>
    rw [elements] at length
    rw [mapElements, body, lead, length]
    rfl
  | fixedArray items => rfl
  | tuple components => rfl
  | _ => exact absurd rfl h

theorem isDynamic_mapElements {v : AbiValue} {f : List AbiValue → List AbiValue}
    (dynamic : anyDynamic (f v.elements) = anyDynamic v.elements) :
    (v.mapElements f).isDynamic = v.isDynamic := by
  cases v with
  | fixedArray items => exact dynamic
  | tuple components => exact dynamic
  | _ => rfl

theorem isDynamic_of_isWord {v : AbiValue} (h : v.isWord = true) : v.isDynamic = false := by
  cases v <;> first | rfl | cases h

theorem elements_of_isWord {v : AbiValue} (h : v.isWord = true) : v.elements = [] := by
  cases v <;> first | rfl | cases h

theorem exists_append_of_getElem? {α : Type} {xs : List α} {index : Nat} {x : α}
    (h : xs[index]? = some x) :
    ∃ before after, xs = before ++ x :: after ∧ before.length = index := by
  obtain ⟨inside, rfl⟩ := List.getElem?_eq_some_iff.1 h
  refine ⟨xs.take index, xs.drop (index + 1), ?_, List.length_take_of_le (Nat.le_of_lt inside)⟩
  rw [← List.drop_eq_getElem_cons inside, List.take_append_drop]

theorem modify_append {α : Type} (before : List α) (x : α) (after : List α) (f : α → α) :
    (before ++ x :: after).modify before.length f = before ++ f x :: after := by
  rw [List.modify_eq_take_cons_drop (by simp)]
  simp

theorem exists_getElem?_of_select {values : List AbiValue} {index : Nat} {rest : List Nat}
    {leaf : AbiValue} (h : select values index rest = some leaf) :
    ∃ v, values[index]? = some v := by
  cases rest with
  | nil => exact ⟨leaf, h⟩
  | cons next rest =>
    obtain ⟨v, found, _⟩ := Option.bind_eq_some_iff.1 h
    exact ⟨v, found⟩

theorem ne_nil_of_select {values : List AbiValue} {index : Nat} {rest : List Nat} {leaf : AbiValue}
    (h : select values index rest = some leaf) : values ≠ [] := by
  rintro rfl
  cases rest <;> cases h

/-- A word in the place of a selected word changes the encoding where that was written, and nowhere
else. -/
theorem encode_replace {values : List AbiValue} {index : Nat} {rest : List Nat}
    {leaf new : AbiValue} (h : select values index rest = some leaf)
    (dynamic : new.isDynamic = leaf.isDynamic) (length : new.body.length = leaf.body.length) :
    anyDynamic (replace new values index rest) = anyDynamic values ∧
    (replace new values index rest).length = values.length ∧
    ∃ left right, left.length = writtenAt values index rest ∧
      encode values = left ++ leaf.body ++ right ∧
      encode (replace new values index rest) = left ++ new.body ++ right := by
  induction rest generalizing values index with
  | nil =>
    obtain ⟨before, after, rfl, rfl⟩ := exists_append_of_getElem? h
    have whole (v : AbiValue) : v.body = [] ++ v.body ++ [] := by simp
    obtain ⟨left, right, position, old, changed⟩ :=
      encode_context before after dynamic (whole leaf) (whole new) length
    rw [replace, List.set_append_right _ _ (Nat.le_refl _), Nat.sub_self, List.set_cons_zero]
    refine ⟨?_, by simp, left, right, position, old, changed⟩
    simp only [anyDynamic_eq_any, List.any_append, List.any_cons, dynamic]
  | cons next rest ih =>
    rw [select, Option.bind_eq_some_iff] at h
    obtain ⟨v, found, inner⟩ := h
    obtain ⟨any, count, first, last, position, old, changed⟩ := ih inner
    have nonempty := ne_nil_of_select inner
    obtain ⟨before, after, rfl, rfl⟩ := exists_append_of_getElem? found
    -- The change below leaves the value as long and as dynamic as it was, so that nothing around it
    -- moves.
    have same := isDynamic_mapElements (f := fun inner => replace new inner next rest) any
    have body : v.body = (v.lead ++ first) ++ leaf.body ++ last := by
      rw [body_of_elements nonempty, old]
      simp
    have newBody : (v.mapElements fun inner => replace new inner next rest).body =
        (v.lead ++ first) ++ new.body ++ last := by
      rw [body_mapElements nonempty count, changed]
      simp
    obtain ⟨left, right, outer, encoded, rewritten⟩ :=
      encode_context before after same body newBody length
    rw [replace, modify_append, writtenAt, found]
    refine ⟨?_, by simp, left, right, ?_, encoded, rewritten⟩
    · simp only [anyDynamic_eq_any, List.any_append, List.any_cons, same]
    · rw [outer, List.length_append, position]
      rfl

theorem standsAt_writtenAt {values : List AbiValue} {index : Nat} {rest : List Nat}
    {leaf : AbiValue} (h : select values index rest = some leaf) :
    StandsAt (encode values) (writtenAt values index rest) leaf.body := by
  obtain ⟨_, _, left, right, position, encoded, _⟩ := encode_replace h rfl rfl
  exact ⟨left, right, encoded, position⟩

/-- A value takes room in the head if a path through it ends at something that takes room. -/
theorem headSize_pos {values : List AbiValue} {index : Nat} {rest : List Nat} {v leaf : AbiValue}
    (found : values[index]? = some v) (h : select values index rest = some leaf)
    (room : 0 < leaf.body.length) : 0 < v.part.headSize := by
  rw [part, Part.headSize]
  cases v.isDynamic with
  | true => exact Nat.succ_pos _
  | false =>
    cases rest with
    | nil =>
      rw [select, found, Option.some.injEq] at h
      rw [h]
      exact room
    | cons next rest =>
      rw [select, found, Option.bind_some] at h
      have inside := (standsAt_writtenAt h).le
      simp only [Bool.false_eq_true, if_false, body_of_elements (ne_nil_of_select h),
        List.length_append]
      omega

end SwapPlan.AbiValue
