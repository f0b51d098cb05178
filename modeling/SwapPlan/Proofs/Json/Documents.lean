import SwapPlan.Json.Document
import SwapPlan.Proofs.Json.Tokens
/-!
# The documents of written values

The grammar takes the tokens of a value for the value again, whatever stands around them
(`Document.run_tokens`), so a written value is read as it is (`ofText?_toText`).
-/
set_option autoImplicit false

namespace SwapPlan.Json

namespace Document

def readable (m : String × Json) : Option String × Option Json := (some m.1, some m.2)

def ofJson : Json → Document
  | .object members => .object (members.map readable)
  | v => .other (some v)

theorem mapM_readable (members : List (String × Json)) :
    (members.map readable).mapM readable? = some members := by
  induction members with
  | nil => rfl
  | cons m rest ih => simp [readable, readable?, ih]

theorem gather_readable (members : List (String × Json)) :
    gather (members.map readable) = some (.object members) := by
  rw [gather, mapM_readable]
  rfl

theorem mapM_some (items : List Json) : (items.map some).mapM id = some items := by
  induction items with
  | nil => rfl
  | cons v rest ih => simp [ih]

theorem value?_ofJson (v : Json) : (ofJson v).value? = some v := by
  cases v with
  | object members => exact gather_readable members
  | _ => rfl

theorem run_firstItem {items : List Json} (some : items ≠ []) (stack : List Frame)
    (rest : List Token) :
    run (.firstItem stack) (itemTokens items ++ rest) =
      run (.value (.array [] :: stack)) (itemTokens items ++ rest) := by
  obtain ⟨v, items, rfl⟩ := List.exists_cons_of_ne_nil some
  cases items <;> cases v <;> rfl

theorem run_firstName {members : List (String × Json)} (some : members ≠ []) (stack : List Frame)
    (rest : List Token) :
    run (.firstName stack) (memberTokens members ++ rest) =
      run (.name stack []) (memberTokens members ++ rest) := by
  obtain ⟨m, members, rfl⟩ := List.exists_cons_of_ne_nil some
  cases members <;> rfl

theorem completeArray_some (items : List Json) (stack : List Frame) :
    completeArray ((items.map some).reverse ++ []) stack =
      complete (some (.array items)) stack := by
  rw [completeArray, List.append_nil, List.reverse_reverse, mapM_some]
  rfl

theorem completeObject_readable (members : List (String × Json)) (frame : Frame)
    (stack : List Frame) :
    completeObject ((members.map readable).reverse ++ []) (frame :: stack) =
      complete (some (.object members)) (frame :: stack) := by
  rw [completeObject, List.append_nil, List.reverse_reverse, gather_readable]
  nofun

mutual

/-- The tokens of a value inside an array or an object are read as the value. -/
theorem run_tokens : ∀ (v : Json) (frame : Frame) (stack : List Frame) (rest : List Token),
    run (.value (frame :: stack)) (v.tokens ++ rest) =
      run (complete (some v) (frame :: stack)) rest
  | .null, _, _, _ => rfl
  | .bool _, _, _, _ => rfl
  | .int _, _, _, _ => rfl
  | .float _, _, _, _ => rfl
  | .string _, _, _, _ => rfl
  | .array items, frame, stack, rest => by
    by_cases empty : items = []
    · subst empty
      rfl
    · have first := run_firstItem empty (frame :: stack) (.closeArray :: rest)
      rw [run_itemTokens items empty [] (frame :: stack) rest, completeArray_some] at first
      rw [tokens, List.cons_append, List.cons_append, List.append_assoc]
      exact first
  | .object members, frame, stack, rest => by
    by_cases empty : members = []
    · subst empty
      rfl
    · have first := run_firstName empty (frame :: stack) (.closeObject :: rest)
      rw [run_memberTokens members empty [] (frame :: stack) rest, completeObject_readable] at first
      rw [tokens, List.cons_append, List.cons_append, List.append_assoc]
      exact first

theorem run_itemTokens : ∀ (items : List Json), items ≠ [] → ∀ (done : List (Option Json))
    (stack : List Frame) (rest : List Token),
    run (.value (.array done :: stack)) (itemTokens items ++ .closeArray :: rest) =
      run (completeArray ((items.map some).reverse ++ done) stack) rest
  | [], empty, _, _, _ => absurd rfl empty
  | [v], _, done, stack, rest => by
    rw [itemTokens, run_tokens v]
    rfl
  | v :: w :: items, _, done, stack, rest => by
    have next := run_itemTokens (w :: items) (List.cons_ne_nil _ _) (some v :: done) stack rest
    rw [itemTokens, List.append_assoc, run_tokens v]
    simp only [List.map_cons, List.reverse_cons, List.append_assoc, List.cons_append,
      List.nil_append] at next ⊢
    exact next

theorem run_memberTokens : ∀ (members : List (String × Json)), members ≠ [] →
    ∀ (done : List (Option String × Option Json)) (stack : List Frame) (rest : List Token),
    run (.name stack done) (memberTokens members ++ .closeObject :: rest) =
      run (completeObject ((members.map readable).reverse ++ done) stack) rest
  | [], empty, _, _, _ => absurd rfl empty
  | [(name, v)], _, done, stack, rest => by
    rw [memberTokens]
    exact run_tokens v (.object done (some name)) stack (.closeObject :: rest)
  | (name, v) :: w :: members, _, done, stack, rest => by
    have next := run_memberTokens (w :: members) (List.cons_ne_nil _ _)
      ((some name, some v) :: done) stack rest
    have first := run_tokens v (.object done (some name)) stack
      (.comma :: memberTokens (w :: members) ++ .closeObject :: rest)
    rw [memberTokens, List.append_assoc]
    simp only [List.map_cons, List.reverse_cons, List.append_assoc, List.cons_append,
      List.nil_append] at next ⊢
    exact first.trans next

end

theorem ofTokens?_tokens (v : Json) : ofTokens? v.tokens = some (ofJson v) := by
  have finished : run (.value []) v.tokens = some (.finished (ofJson v)) := by
    cases v with
    | array items =>
      by_cases empty : items = []
      · subst empty
        rfl
      · have first := run_firstItem empty [] [.closeArray]
        rw [run_itemTokens items empty [] [] [], completeArray_some] at first
        exact first
    | object members =>
      by_cases empty : members = []
      · subst empty
        rfl
      · have first := run_firstName empty [] [.closeObject]
        rw [run_memberTokens members empty [] [] [], List.append_nil, completeObject,
          List.reverse_reverse] at first
        exact first
    | _ => rfl
  rw [ofTokens?, finished]

theorem ofText?_toText {v : Json} (exact : v.Exact) : ofText? v.toText = some (ofJson v) := by
  rw [ofText?, tokens?_toText exact, Option.bind_some, ofTokens?_tokens]

theorem restrict?_ofJson {members : List (String × Json)} {known : List String}
    (all : ∀ m ∈ members, m.1 ∈ known) :
    (ofJson (.object members)).restrict? known = some (.object members) := by
  have named : (members.map readable).all (·.1.isSome) = true := by
    simp [readable]
  have kept : ((members.map readable).filter fun m => m.1.any (known.contains ·)) =
      members.map readable := by
    rw [List.filter_eq_self]
    rintro _ mem
    obtain ⟨m, inside, rfl⟩ := List.mem_map.1 mem
    simpa [readable] using all m inside
  rw [ofJson, restrict?, if_pos named, kept, gather_readable]

end Document

/-- A written value is read as the value. -/
theorem ofText?_toText {v : Json} (exact : v.Exact) : ofText? v.toText = some v := by
  rw [ofText?, Document.ofText?_toText exact, Option.bind_some, Document.value?_ofJson]

end SwapPlan.Json
