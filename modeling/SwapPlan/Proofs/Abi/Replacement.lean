import SwapPlan.Proofs.Abi.Typing
/-!
# Replacing a word among values

A word in the place of another one leaves the values around it of their types
(`Compositional.replace`), and every other word what it was (`select_replace_of_ne`) and where it was
written (`writtenAt_replace`).
-/
set_option autoImplicit false

namespace SwapPlan

namespace AbiType

def inside : AbiType → Nat → Option AbiType
  | array item, _ => some item
  | fixedArray item _, _ => some item
  | tuple components, index => components[index]?
  | _, _ => none

def along : AbiType → List Nat → Option AbiType
  | t, [] => some t
  | t, index :: rest => (t.inside index).bind fun u => u.along rest

theorem isRegular_of_getElem? {types : List AbiType} {index : Nat} {t : AbiType}
    (h : allRegular types = true) (found : types[index]? = some t) : t.isRegular = true := by
  induction types generalizing index with
  | nil => cases found
  | cons first rest ih =>
    rw [allRegular, Bool.and_eq_true] at h
    cases index with
    | zero =>
      cases found
      exact h.1
    | succ index => exact ih h.2 found

theorem isRegular_inside {t u : AbiType} {index : Nat} (h : t.isRegular = true)
    (found : t.inside index = some u) : u.isRegular = true := by
  cases t with
  | array item =>
    cases found
    exact h
  | fixedArray item count =>
    rw [isRegular, Bool.and_eq_true] at h
    cases found
    exact h.1
  | tuple components => exact isRegular_of_getElem? h found
  | _ => cases found

theorem isRegular_along {t u : AbiType} {path : List Nat} (h : t.isRegular = true)
    (found : t.along path = some u) : u.isRegular = true := by
  induction path generalizing t with
  | nil =>
    cases found
    exact h
  | cons index rest ih =>
    rw [along, Option.bind_eq_some_iff] at found
    obtain ⟨s, step, found⟩ := found
    exact ih (isRegular_inside h step) found

end AbiType

namespace AbiValue

variable {values others : List AbiValue} {v w leaf new : AbiValue} {index : Nat} {rest : List Nat}

/-- Several values that are each of the type that belongs to its index, in the sense of a relation. -/
def Each (R : AbiValue → AbiType → Prop) (typeOf : Nat → Option AbiType)
    (values : List AbiValue) : Prop :=
  ∀ index v, values[index]? = some v → ∃ t, typeOf index = some t ∧ R v t

/-- A relation of values and types that looks at the elements of a value one by one. -/
structure Compositional (R : AbiValue → AbiType → Prop) : Prop where
  elements : ∀ {v t}, R v t → Each R t.inside v.elements
  mapElements : ∀ {v t} {f : List AbiValue → List AbiValue}, R v t →
    (f v.elements).length = v.elements.length → Each R t.inside (f v.elements) →
      R (v.mapElements f) t

theorem each_cons {R : AbiValue → AbiType → Prop} {typeOf : Nat → Option AbiType} :
    Each R typeOf (v :: values) ↔
      (∃ t, typeOf 0 = some t ∧ R v t) ∧ Each R (fun i => typeOf (i + 1)) values := by
  constructor
  · intro each
    exact ⟨each 0 v rfl, fun i w found => each (i + 1) w found⟩
  · rintro ⟨first, others⟩ index w found
    cases index with
    | zero =>
      cases found
      exact first
    | succ index => exact others index w found

theorem each_iff_forall_mem {R : AbiValue → AbiType → Prop} {t : AbiType} :
    Each R (fun _ => some t) values ↔ ∀ v ∈ values, R v t := by
  constructor
  · intro each v mem
    obtain ⟨index, found⟩ := List.mem_iff_getElem?.1 mem
    obtain ⟨_, same, related⟩ := each index v found
    cases same
    exact related
  · exact fun all index v found => ⟨t, rfl, all v (List.mem_of_getElem? found)⟩

theorem allFit_iff {t : AbiType} :
    allFit values t = true ↔ Each (fun v t => v.fits t = true) (fun _ => some t) values := by
  induction values with
  | nil => exact iff_of_true rfl nofun
  | cons v rest ih =>
    rw [allFit, Bool.and_eq_true, ih, each_cons]
    simp

theorem prefixFits_iff {types : List AbiType} :
    prefixFits values types = true ↔ Each (fun v t => v.fits t = true) (types[·]?) values := by
  induction values generalizing types with
  | nil => exact iff_of_true rfl nofun
  | cons v rest ih =>
    rw [each_cons]
    cases types with
    | nil => simp [prefixFits]
    | cons t types =>
      rw [prefixFits, Bool.and_eq_true, ih]
      simp

theorem argumentsFit_iff {types : List AbiType} :
    argumentsFit values types = true ↔
      values.length = types.length ∧ Each (fun v t => v.fits t = true) (types[·]?) values := by
  rw [argumentsFit, Bool.and_eq_true, decide_eq_true_eq, prefixFits_iff]

theorem compositional_fits : Compositional fun v t => v.fits t = true := by
  constructor
  · intro v t fit
    cases v with
    | array items =>
      cases t with
      | array item => exact allFit_iff.1 fit
      | _ => cases fit
    | fixedArray items =>
      cases t with
      | fixedArray item count =>
        rw [fits, Bool.and_eq_true] at fit
        exact allFit_iff.1 fit.2
      | _ => cases fit
    | tuple components =>
      cases t with
      | tuple types => exact prefixFits_iff.1 fit
      | _ => cases fit
    | _ => exact nofun
  · intro v t f fit length each
    cases v with
    | array items =>
      cases t with
      | array item => exact allFit_iff.2 each
      | _ => cases fit
    | fixedArray items =>
      cases t with
      | fixedArray item count =>
        rw [fits, Bool.and_eq_true, decide_eq_true_eq] at fit
        rw [mapElements, fits, Bool.and_eq_true, decide_eq_true_eq]
        exact ⟨length.trans fit.1, allFit_iff.2 each⟩
      | _ => cases fit
    | tuple components =>
      cases t with
      | tuple types => exact prefixFits_iff.2 each
      | _ => cases fit
    | _ => exact fit

theorem mapElements_of_isWord {f : List AbiValue → List AbiValue} (h : v.isWord = true) :
    v.mapElements f = v := by
  cases v <;> first | rfl | cases h

theorem compositional_inhabits : Compositional Inhabits := by
  constructor
  · intro v t typed index w found
    cases typed with
    | word value _ _ =>
      rw [elements_of_isWord value] at found
      cases found
    | string value => cases found
    | bytes value => cases found
    | array each => exact each_iff_forall_mem.2 each index w found
    | fixedArray each _ => exact each_iff_forall_mem.2 each index w found
    | @tuple components types length each =>
      obtain ⟨inside, _⟩ := List.getElem?_eq_some_iff.1 found
      have typed := List.getElem?_eq_getElem (length ▸ inside : index < types.length)
      exact ⟨_, typed, each index w _ found typed⟩
  · intro v t f typed length each
    cases typed with
    | word value type size =>
      rw [mapElements_of_isWord value]
      exact .word value type size
    | string value => exact .string value
    | bytes value => exact .bytes value
    | array _ => exact .array (each_iff_forall_mem.1 each)
    | @fixedArray items item _ settled =>
      rw [elements] at length
      rw [mapElements, ← length]
      refine .fixedArray (each_iff_forall_mem.1 each) fun none => ?_
      rw [none, List.length_nil] at length
      exact settled (List.length_eq_zero_iff.1 length.symm)
    | @tuple components types size _ =>
      refine .tuple (length.trans size) fun index w u found placed => ?_
      obtain ⟨_, same, typed⟩ := each index w found
      rw [AbiType.inside, placed] at same
      cases same
      exact typed

theorem length_replace : (replace new values index rest).length = values.length := by
  cases rest <;> simp [replace]

theorem getElem?_replace_nil (inside : index < values.length) :
    (replace new values index [])[index]? = some new := by
  rw [replace, List.getElem?_set_self inside]

theorem getElem?_replace_cons {next : Nat} (found : values[index]? = some v) :
    (replace new values index (next :: rest))[index]? =
      some (v.mapElements fun inner => replace new inner next rest) := by
  rw [replace, List.getElem?_modify_eq, found]
  rfl

theorem getElem?_replace_of_ne {other : Nat} (h : index ≠ other) :
    (replace new values index rest)[other]? = values[other]? := by
  cases rest with
  | nil => rw [replace, List.getElem?_set_ne h]
  | cons next rest => rw [replace, List.getElem?_modify_ne _ _ h]

theorem Compositional.select {R : AbiValue → AbiType → Prop} (rule : Compositional R)
    {typeOf : Nat → Option AbiType} (each : Each R typeOf values)
    (selected : AbiValue.select values index rest = some leaf) :
    ∃ t, ((typeOf index).bind fun u => u.along rest) = some t ∧ R leaf t := by
  induction rest generalizing values index typeOf with
  | nil =>
    obtain ⟨t, typed, related⟩ := each index leaf selected
    exact ⟨t, by rw [typed]; rfl, related⟩
  | cons next rest ih =>
    rw [AbiValue.select, Option.bind_eq_some_iff] at selected
    obtain ⟨v, found, inner⟩ := selected
    obtain ⟨u, typed, related⟩ := each index v found
    obtain ⟨t, along, related⟩ := ih (rule.elements related) inner
    exact ⟨t, by rw [typed]; exact along, related⟩

theorem Compositional.replace {R : AbiValue → AbiType → Prop} (rule : Compositional R)
    {typeOf : Nat → Option AbiType} {t : AbiType} (each : Each R typeOf values)
    (selected : AbiValue.select values index rest = some leaf)
    (typed : ((typeOf index).bind fun u => u.along rest) = some t) (related : R new t) :
    Each R typeOf (AbiValue.replace new values index rest) := by
  induction rest generalizing values index typeOf with
  | nil =>
    intro i v found
    rw [Option.bind_eq_some_iff] at typed
    obtain ⟨u, typed, same⟩ := typed
    cases same
    by_cases here : index = i
    · subst here
      obtain ⟨inside, _⟩ := List.getElem?_eq_some_iff.1 selected
      rw [getElem?_replace_nil inside] at found
      cases found
      exact ⟨t, typed, related⟩
    · rw [getElem?_replace_of_ne here] at found
      exact each i v found
  | cons next rest ih =>
    intro i v found
    rw [AbiValue.select, Option.bind_eq_some_iff] at selected
    obtain ⟨w, standing, inner⟩ := selected
    by_cases here : index = i
    · subst here
      obtain ⟨u, known, holds⟩ := each index w standing
      rw [getElem?_replace_cons standing] at found
      cases found
      rw [known] at typed
      exact ⟨u, known, rule.mapElements holds length_replace (ih (rule.elements holds) inner typed)⟩
    · rw [getElem?_replace_of_ne here] at found
      exact each i v found

/-- What the layout of a sequence depends on in a value: whether it is written behind a pointer, and
how long it is. -/
def shape (v : AbiValue) : Bool × Nat := (v.isDynamic, v.body.length)

theorem headLength_eq_of_shapes (same : values.map shape = others.map shape) :
    headLength values = headLength others := by
  have sizes (vs : List AbiValue) : (vs.map fun v => v.part.headSize) =
      (vs.map shape).map fun s => if s.1 then Word.size else s.2 := by
    rw [List.map_map]
    rfl
  rw [headLength_eq_sum, headLength_eq_sum, sizes, sizes, same]

theorem length_tails (values : List AbiValue) : (tails (parts values)).length =
    ((values.map shape).map fun s => if s.1 then s.2 else 0).sum := by
  induction values with
  | nil => rfl
  | cons v rest ih =>
    rw [parts, tails, List.map_cons, List.map_cons, List.sum_cons, ← ih, shape]
    cases v.isDynamic <;> simp

theorem start_eq_of_shapes (same : values.map shape = others.map shape) (index : Nat) :
    start values index = start others index := by
  have front : (values.take index).map shape = (others.take index).map shape := by
    rw [List.map_take, List.map_take, same]
  have dynamic (vs : List AbiValue) :
      vs[index]?.any isDynamic = (vs.map shape)[index]?.any Prod.fst := by
    rw [List.getElem?_map, Option.any_map]
    rfl
  rw [start, start, headLength_eq_of_shapes same, headLength_eq_of_shapes front, length_tails,
    length_tails, front, dynamic, dynamic, same]

theorem shape_mapElements_replace {next : Nat}
    (selected : select v.elements next rest = some leaf) (dynamic : new.isDynamic = leaf.isDynamic)
    (length : new.body.length = leaf.body.length) :
    shape (v.mapElements fun inner => replace new inner next rest) = shape v := by
  have nonempty := ne_nil_of_select selected
  obtain ⟨any, count, left, right, _, old, changed⟩ := encode_replace selected dynamic length
  rw [shape, shape, isDynamic_mapElements any, body_mapElements nonempty count,
    body_of_elements nonempty, old, changed]
  simp [length]

theorem shapes_replace (selected : select values index rest = some leaf)
    (dynamic : new.isDynamic = leaf.isDynamic) (length : new.body.length = leaf.body.length) :
    (replace new values index rest).map shape = values.map shape := by
  obtain ⟨v, found⟩ := exists_getElem?_of_select selected
  obtain ⟨before, after, rfl, rfl⟩ := exists_append_of_getElem? found
  cases rest with
  | nil =>
    rw [select, found, Option.some.injEq] at selected
    subst selected
    rw [replace, List.set_append_right _ _ (Nat.le_refl _), Nat.sub_self, List.set_cons_zero]
    simp [shape, dynamic, length]
  | cons next rest =>
    rw [select, found, Option.bind_some] at selected
    rw [replace, modify_append]
    simp [shape_mapElements_replace selected dynamic length]

theorem elements_mapElements {f : List AbiValue → List AbiValue} (h : v.elements ≠ []) :
    (v.mapElements f).elements = f v.elements := by
  cases v <;> first | rfl | exact absurd rfl h

theorem lead_mapElements {f : List AbiValue → List AbiValue}
    (length : (f v.elements).length = v.elements.length) : (v.mapElements f).lead = v.lead := by
  cases v with
  | array items => exact congrArg wordOf length
  | _ => rfl

theorem select_below_word {next : Nat} (found : values[index]? = some v) (isWord : v.isWord = true) :
    select values index (next :: rest) = none := by
  rw [select, found, Option.bind_some, elements_of_isWord isWord]
  cases rest <;> rfl

/-- A word in the place of another one moves nothing. -/
theorem writtenAt_replace {other : Nat} {further : List Nat} {target : AbiValue}
    (selected : select values index rest = some leaf) (isWord : leaf.isWord = true)
    (dynamic : new.isDynamic = leaf.isDynamic) (length : new.body.length = leaf.body.length)
    (targeted : select values other further = some target) :
    writtenAt (replace new values index rest) other further = writtenAt values other further := by
  induction further generalizing values index rest other with
  | nil => exact start_eq_of_shapes (shapes_replace selected dynamic length) other
  | cons step further ih =>
    rw [writtenAt, writtenAt, start_eq_of_shapes (shapes_replace selected dynamic length) other]
    congr 1
    by_cases here : index = other
    · subst here
      -- Both paths go on inside one value: below a word there are no paths.
      cases rest with
      | nil =>
        rw [select_below_word selected isWord] at targeted
        cases targeted
      | cons next rest =>
        rw [select, Option.bind_eq_some_iff] at selected targeted
        obtain ⟨v, found, inner⟩ := selected
        obtain ⟨_, again, below⟩ := targeted
        cases found.symm.trans again
        rw [getElem?_replace_cons found, found, Option.elim_some, Option.elim_some,
          lead_mapElements length_replace, elements_mapElements (ne_nil_of_select inner),
          ih inner below]
    · rw [getElem?_replace_of_ne here]

theorem select_replace_self (selected : select values index rest = some leaf) :
    select (replace new values index rest) index rest = some new := by
  induction rest generalizing values index with
  | nil =>
    obtain ⟨inside, _⟩ := List.getElem?_eq_some_iff.1 selected
    exact getElem?_replace_nil inside
  | cons next rest ih =>
    rw [select, Option.bind_eq_some_iff] at selected
    obtain ⟨v, found, inner⟩ := selected
    rw [select, getElem?_replace_cons found, Option.bind_some,
      elements_mapElements (ne_nil_of_select inner), ih inner]

theorem select_replace_of_ne {other : Nat} {further : List Nat} {target : AbiValue}
    (selected : select values index rest = some leaf) (isWord : leaf.isWord = true)
    (targeted : select values other further = some target) (targetWord : target.isWord = true)
    (distinct : index = other → rest ≠ further) :
    select (replace new values index rest) other further = some target := by
  induction further generalizing values index rest other with
  | nil =>
    by_cases here : index = other
    · subst here
      cases rest with
      | nil => exact absurd rfl (distinct rfl)
      | cons next rest =>
        rw [select_below_word targeted targetWord] at selected
        cases selected
    · rw [select, getElem?_replace_of_ne here]
      exact targeted
  | cons step further ih =>
    by_cases here : index = other
    · subst here
      cases rest with
      | nil =>
        rw [select_below_word selected isWord] at targeted
        cases targeted
      | cons next rest =>
        rw [select, Option.bind_eq_some_iff] at selected targeted
        obtain ⟨v, found, inner⟩ := selected
        obtain ⟨_, again, below⟩ := targeted
        cases found.symm.trans again
        rw [select, getElem?_replace_cons found, Option.bind_some,
          elements_mapElements (ne_nil_of_select inner)]
        apply ih inner below
        rintro rfl rfl
        exact distinct rfl rfl
    · rw [select, getElem?_replace_of_ne here]
      exact targeted

end AbiValue
end SwapPlan
