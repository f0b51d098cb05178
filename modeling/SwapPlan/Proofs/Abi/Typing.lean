import SwapPlan.Proofs.Abi.Paths
/-!
# Values of a type

A value inhabits a type if it fits it without gaps: tuples have all their components, and a word has
all its bytes.  Such a value is written behind a pointer exactly if its type says so
(`Inhabits.isDynamic_eq`), and takes as much room in the head as its type says
(`Inhabits.headSize_eq`).
-/
set_option autoImplicit false

namespace SwapPlan

namespace AbiType

mutual

/-- Whether the fixed byte strings inside a type fit a word, and none of the fixed arrays inside it
has no room for items that vary in length. -/
def isRegular : AbiType → Bool
  | fixedBytes size => size ≤ Word.size
  | array item => item.isRegular
  | fixedArray item count => item.isRegular && (count ≠ 0 || !item.isDynamic)
  | tuple components => allRegular components
  | _ => true

def allRegular : List AbiType → Bool
  | [] => true
  | t :: rest => t.isRegular && allRegular rest

end

theorem anyDynamic_eq_any (types : List AbiType) : anyDynamic types = types.any isDynamic := by
  induction types with
  | nil => rfl
  | cons t rest ih => rw [anyDynamic, ih, List.any_cons]

theorem headSizes_eq_sum (types : List AbiType) : headSizes types = (types.map headSize).sum := by
  induction types with
  | nil => rfl
  | cons t rest ih => rw [headSizes, ih, List.map_cons, List.sum_cons]

theorem isDynamic_of_isWord {t : AbiType} (h : t.isWord = true) : t.isDynamic = false := by
  cases t <;> first | rfl | cases h

theorem headSize_of_isWord {t : AbiType} (h : t.isWord = true) : t.headSize = Word.size := by
  cases t <;> first | rfl | cases h

end AbiType

namespace AbiValue

mutual

/-- Whether the tuples inside a value have all the components of their types. -/
def isComplete : AbiValue → AbiType → Bool
  | array items, .array item => allComplete items item
  | fixedArray items, .fixedArray item _ => allComplete items item
  | tuple values, .tuple types => values.length = types.length && eachComplete values types
  | _, _ => true

def allComplete : List AbiValue → AbiType → Bool
  | [], _ => true
  | v :: rest, t => v.isComplete t && allComplete rest t

def eachComplete : List AbiValue → List AbiType → Bool
  | v :: values, t :: types => v.isComplete t && eachComplete values types
  | _, _ => true

end

mutual

def hasEmptyBytes : AbiValue → Bool
  | fixedBytes value => value.isEmpty
  | array items => anyEmptyBytes items
  | fixedArray items => anyEmptyBytes items
  | tuple components => anyEmptyBytes components
  | _ => false

def anyEmptyBytes : List AbiValue → Bool
  | [] => false
  | v :: rest => v.hasEmptyBytes || anyEmptyBytes rest

end

/-- A value without gaps of a type. -/
inductive Inhabits : AbiValue → AbiType → Prop
  | word {v : AbiValue} {t : AbiType} (value : v.isWord = true) (type : t.isWord = true)
      (length : v.body.length = Word.size) : Inhabits v t
  | string (value : String) : Inhabits (.string value) .string
  | bytes (value : Bytes) : Inhabits (.bytes value) .bytes
  | array {items : List AbiValue} {item : AbiType} (each : ∀ v ∈ items, Inhabits v item) :
      Inhabits (.array items) (.array item)
  | fixedArray {items : List AbiValue} {item : AbiType} (each : ∀ v ∈ items, Inhabits v item)
      (settled : items = [] → item.isDynamic = false) :
      Inhabits (.fixedArray items) (.fixedArray item items.length)
  | tuple {values : List AbiValue} {types : List AbiType} (length : values.length = types.length)
      (each : ∀ (i : Nat) (v : AbiValue) (t : AbiType),
        values[i]? = some v → types[i]? = some t → Inhabits v t) :
      Inhabits (.tuple values) (.tuple types)

theorem map_eq_map {α β γ : Type} {xs : List α} {ys : List β} {f : α → γ} {g : β → γ}
    (length : xs.length = ys.length)
    (each : ∀ (i : Nat) (x : α) (y : β), xs[i]? = some x → ys[i]? = some y → f x = g y) :
    xs.map f = ys.map g := by
  apply List.ext_getElem (by simpa using length)
  intro i hx hy
  rw [List.length_map] at hx hy
  rw [List.getElem_map, List.getElem_map]
  exact each i _ _ (List.getElem?_eq_getElem hx) (List.getElem?_eq_getElem hy)

theorem Inhabits.isDynamic_eq {v : AbiValue} {t : AbiType} (h : Inhabits v t) :
    v.isDynamic = t.isDynamic := by
  induction h with
  | word value type _ =>
    rw [AbiValue.isDynamic_of_isWord value, AbiType.isDynamic_of_isWord type]
  | string value => rfl
  | bytes value => rfl
  | array _ _ => rfl
  | @fixedArray items item each settled ih =>
    rw [isDynamic, AbiType.isDynamic, anyDynamic_eq_any]
    cases items with
    | nil => rw [settled rfl, List.any_nil]
    | cons first rest =>
      rw [List.forall_mem_cons] at ih
      rw [List.any_cons, ih.1, Bool.or_eq_left_iff_imp, List.any_eq_true]
      rintro ⟨v, mem, dynamic⟩
      rw [← ih.2 v mem, dynamic]
  | @tuple values types length _ ih =>
    have same : values.map isDynamic = types.map AbiType.isDynamic := map_eq_map length ih
    have any := congrArg (List.any · id) same
    simpa [isDynamic, AbiType.isDynamic, anyDynamic_eq_any, AbiType.anyDynamic_eq_any] using any

theorem headLength_eq_sum (values : List AbiValue) :
    headLength values = (values.map fun v => v.part.headSize).sum := by
  rw [headLength, parts_eq_map, List.map_map]
  rfl

theorem tails_of_static {values : List AbiValue} (h : anyDynamic values = false) :
    tails (parts values) = [] := by
  induction values with
  | nil => rfl
  | cons v rest ih =>
    rw [anyDynamic, Bool.or_eq_false_iff] at h
    rw [parts, tails, if_neg (by simp [h.1]), ih h.2]

theorem length_encode_of_static {values : List AbiValue} (h : anyDynamic values = false) :
    (encode values).length = headLength values := by
  rw [encode, sequence, tails_of_static h, List.append_nil, length_heads]
  rfl

theorem headSize_of_body {v : AbiValue} {values : List AbiValue}
    (dynamic : v.isDynamic = anyDynamic values) (body : v.body = encode values) :
    v.part.headSize = if anyDynamic values then Word.size else headLength values := by
  rw [part, Part.headSize]
  simp only [dynamic, body]
  cases any : anyDynamic values with
  | true => rfl
  | false => simpa using length_encode_of_static any

theorem headLength_of_each {values : List AbiValue} {size : Nat}
    (h : ∀ v ∈ values, v.part.headSize = size) : headLength values = values.length * size := by
  have sizes : values.map (fun v => v.part.headSize) = List.replicate values.length size := by
    rw [List.eq_replicate_iff]
    simpa using h
  rw [headLength_eq_sum, sizes, List.sum_replicate_nat]

theorem Inhabits.headSize_eq {v : AbiValue} {t : AbiType} (h : Inhabits v t) :
    v.part.headSize = t.headSize := by
  induction h with
  | @word v t value type length =>
    rw [Part.headSize, part, isDynamic_of_isWord value, AbiType.headSize_of_isWord type]
    exact length
  | string value => rfl
  | bytes value => rfl
  | array _ _ => rfl
  | @fixedArray items item each settled ih =>
    have dynamic := (Inhabits.fixedArray each settled).isDynamic_eq
    rw [isDynamic, AbiType.isDynamic] at dynamic
    rw [headSize_of_body rfl rfl, AbiType.headSize, dynamic, headLength_of_each ih]
  | @tuple values types length each ih =>
    have dynamic := (Inhabits.tuple length each).isDynamic_eq
    rw [isDynamic, AbiType.isDynamic] at dynamic
    rw [headSize_of_body rfl rfl, AbiType.headSize, dynamic, headLength_eq_sum,
      map_eq_map length ih, AbiType.headSizes_eq_sum]

theorem Inhabits.isWord_eq {v : AbiValue} {t : AbiType} (h : Inhabits v t) :
    v.isWord = t.isWord := by
  cases h with
  | word value type _ => rw [value, type]
  | _ => rfl

theorem Inhabits.length_body {v : AbiValue} {t : AbiType} (h : Inhabits v t)
    (isWord : v.isWord = true) : v.body.length = Word.size := by
  cases h with
  | word _ _ length => exact length
  | _ => cases isWord

theorem Inhabits.elements {v : AbiValue} {t : AbiType} (h : Inhabits v t) :
    ∀ w ∈ v.elements, ∃ u, Inhabits w u := by
  intro w mem
  cases h with
  | word value _ _ =>
    rw [elements_of_isWord value] at mem
    cases mem
  | string value => cases mem
  | bytes value => cases mem
  | array each => exact ⟨_, each w mem⟩
  | fixedArray each _ => exact ⟨_, each w mem⟩
  | @tuple values types length each =>
    obtain ⟨i, found⟩ := List.mem_iff_getElem?.1 mem
    obtain ⟨inside, _⟩ := List.getElem?_eq_some_iff.1 found
    have typed : i < types.length := length ▸ inside
    exact ⟨types[i], each i w _ found (List.getElem?_eq_getElem typed)⟩

theorem inhabits_select {values : List AbiValue} (h : ∀ v ∈ values, ∃ t, Inhabits v t)
    {index : Nat} {rest : List Nat} {leaf : AbiValue}
    (selected : select values index rest = some leaf) :
    ∃ t, Inhabits leaf t := by
  induction rest generalizing values index with
  | nil => exact h leaf (List.mem_of_getElem? selected)
  | cons next rest ih =>
    rw [select, Option.bind_eq_some_iff] at selected
    obtain ⟨v, found, inner⟩ := selected
    obtain ⟨t, typed⟩ := h v (List.mem_of_getElem? found)
    exact ih typed.elements inner

theorem length_fillUp {bs : Bytes} (some : bs ≠ []) (fits : bs.length ≤ Word.size) :
    (fillUp bs).length = Word.size := by
  have positive := List.length_pos_iff.2 some
  rw [fillUp, List.length_append, List.length_replicate]
  simp only [Word.size] at *
  omega

mutual

/-- A value that a call takes inhabits the type of its parameter, if it has no gaps. -/
theorem inhabits_of_fits : ∀ (v : AbiValue) (t : AbiType), v.fits t = true → t.isRegular = true →
    v.isComplete t = true → v.hasEmptyBytes = false → Inhabits v t := by
  intro v t fit regular complete full
  cases v with
  | address value =>
    cases t <;> first | exact .word rfl rfl value.length_padded | cases fit
  | bool value =>
    cases t <;> first | exact .word rfl rfl (length_wordOf _) | cases fit
  | uint value =>
    cases t <;> first | exact .word rfl rfl value.length_bytes | cases fit
  | int value =>
    cases t <;> first | exact .word rfl rfl value.length_bytes | cases fit
  | string value =>
    cases t <;> first | exact .string value | cases fit
  | bytes value =>
    cases t <;> first | exact .bytes value | cases fit
  | fixedBytes value =>
    cases t with
    | fixedBytes size =>
      refine .word rfl rfl (length_fillUp ?_ ?_)
      · simpa [hasEmptyBytes] using full
      · simp only [fits, AbiType.isRegular, decide_eq_true_eq] at fit regular
        exact Nat.le_trans fit regular
    | _ => cases fit
  | array items =>
    cases t with
    | array item => exact .array (inhabits_of_allFit items item fit regular complete full)
    | _ => cases fit
  | fixedArray items =>
    cases t with
    | fixedArray item count =>
      simp only [fits, AbiType.isRegular, Bool.and_eq_true, decide_eq_true_eq] at fit regular
      obtain ⟨rfl, fit⟩ := fit
      refine .fixedArray (inhabits_of_allFit items item fit regular.1 complete full) ?_
      rintro rfl
      simpa using regular.2
    | _ => cases fit
  | tuple values =>
    cases t with
    | tuple types =>
      simp only [isComplete, Bool.and_eq_true, decide_eq_true_eq] at complete
      exact .tuple complete.1 (inhabits_of_prefixFits values types fit regular complete.2 full)
    | _ => cases fit

theorem inhabits_of_allFit : ∀ (vs : List AbiValue) (t : AbiType), allFit vs t = true →
    t.isRegular = true → allComplete vs t = true → anyEmptyBytes vs = false →
    ∀ v ∈ vs, Inhabits v t := by
  intro vs t fit regular complete full
  cases vs with
  | nil => exact nofun
  | cons v rest =>
    rw [allFit, Bool.and_eq_true] at fit
    rw [allComplete, Bool.and_eq_true] at complete
    rw [anyEmptyBytes, Bool.or_eq_false_iff] at full
    rw [List.forall_mem_cons]
    exact ⟨inhabits_of_fits v t fit.1 regular complete.1 full.1,
      inhabits_of_allFit rest t fit.2 regular complete.2 full.2⟩

theorem inhabits_of_prefixFits : ∀ (vs : List AbiValue) (ts : List AbiType),
    prefixFits vs ts = true → AbiType.allRegular ts = true → eachComplete vs ts = true →
    anyEmptyBytes vs = false →
    ∀ (i : Nat) (v : AbiValue) (t : AbiType), vs[i]? = some v → ts[i]? = some t → Inhabits v t := by
  intro vs ts fit regular complete full i v t hv ht
  cases vs with
  | nil => cases hv
  | cons head values =>
    cases ts with
    | nil => cases ht
    | cons type types =>
      rw [prefixFits, Bool.and_eq_true] at fit
      rw [AbiType.allRegular, Bool.and_eq_true] at regular
      rw [eachComplete, Bool.and_eq_true] at complete
      rw [anyEmptyBytes, Bool.or_eq_false_iff] at full
      cases i with
      | zero =>
        rw [List.getElem?_cons_zero, Option.some.injEq] at hv ht
        subst hv ht
        exact inhabits_of_fits head type fit.1 regular.1 complete.1 full.1
      | succ i =>
        exact inhabits_of_prefixFits values types fit.2 regular.2 complete.2 full.2 i v t hv ht

end

end AbiValue
end SwapPlan
