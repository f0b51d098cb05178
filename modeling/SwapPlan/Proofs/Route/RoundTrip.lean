import SwapPlan.Plan.Compilation
import SwapPlan.Proofs.Route.Written
/-!
# Normal forms of routes

A value that is read as a route has a normal form, the written route.  It is its own normal form and
compiles as the value does (`Route.normalForm_idempotent`).  Fields are written in the order of their
declaration, or sorted by name where the data of hops is sorted, which it is in all that is read from
sorted values (`Route.yields_sorted`).
-/
set_option autoImplicit false

namespace SwapPlan

open Json (Reader ReadError)

theorem Hop.yields_sorted : Hop.ofJson.Yields fun hop => hop.data.Sorted := by
  intro v hop sorted accepted
  -- The data is the last field that is read.
  obtain ⟨found, members, accepted⟩ := Outcome.bind_eq_ok.1 accepted
  obtain ⟨_, _, accepted⟩ := Outcome.bind_eq_ok.1 accepted
  obtain ⟨_, _, accepted⟩ := Outcome.bind_eq_ok.1 accepted
  obtain ⟨_, _, accepted⟩ := Outcome.bind_eq_ok.1 accepted
  obtain ⟨_, _, accepted⟩ := Outcome.bind_eq_ok.1 accepted
  obtain ⟨data, read, accepted⟩ := Outcome.bind_eq_ok.1 accepted
  cases accepted
  have any : Reader.any.Yields Json.Sorted := by
    rintro v _ sorted ⟨⟩
    exact sorted
  have null : Json.null.Sorted := trivial
  exact any.withDefault null (Json.Shape.sorted_of_members sorted members) read

theorem Step.sortedData_of_ofKind {kind : String} {rest : Json} {step : Step}
    (sorted : rest.Sorted) (accepted : ofKind kind rest = .ok step) : step.SortedData := by
  rw [ofKind] at accepted
  split at accepted
  · obtain ⟨hop, read, rfl⟩ := Outcome.map_eq_ok.1 accepted
    rintro _ ⟨⟩
    exact Hop.yields_sorted rest hop sorted read
  · -- No other kind of step has data.
    dsimp only at accepted
    split at accepted
    · cases accepted
    · cases accepted
    · rename_i directive _
      cases accepted
      intro hop data
      split at directive
      · cases directive
        cases data
      · split at directive
        · cases directive
          cases data
        · cases directive

theorem Step.yields_sorted : Step.ofJson.Yields Step.SortedData := by
  intro v step sorted accepted
  unfold ofJson at accepted
  split at accepted
  · rename_i members
    split at accepted
    · rw [Outcome.ite_error_eq_ok] at accepted
      have others : Json.Sorted (.object (members.filter (·.1 ≠ "kind"))) := by
        refine ⟨sorted.1.filter _, ?_⟩
        rw [Json.sortedMembers_iff]
        exact fun m mem => Json.sortedMembers_iff.1 sorted.2 m (List.mem_of_mem_filter mem)
      exact sortedData_of_ofKind others accepted.2
    · cases accepted
    · cases accepted
  · rename_i rest
    have others : Json.Sorted (.array rest) := sorted.2
    exact sortedData_of_ofKind others accepted
  · cases accepted
  · cases accepted
  · cases accepted

theorem Leg.yields_sorted : Leg.ofJson.Yields Leg.SortedData := by
  intro v leg sorted accepted
  obtain ⟨found, members, accepted⟩ := Outcome.bind_eq_ok.1 accepted
  obtain ⟨_, _, accepted⟩ := Outcome.bind_eq_ok.1 accepted
  obtain ⟨_, _, accepted⟩ := Outcome.bind_eq_ok.1 accepted
  obtain ⟨steps, read, accepted⟩ := Outcome.bind_eq_ok.1 accepted
  cases accepted
  exact Step.yields_sorted.list.require (Json.Shape.sorted_of_members sorted members) read

namespace Route

theorem yields_sorted : Route.ofJson.Yields Route.SortedData := by
  intro v route sorted accepted
  -- The legs are the last field that is read, behind five without data.
  obtain ⟨found, members, accepted⟩ := Outcome.bind_eq_ok.1 accepted
  obtain ⟨_, _, accepted⟩ := Outcome.bind_eq_ok.1 accepted
  obtain ⟨_, _, accepted⟩ := Outcome.bind_eq_ok.1 accepted
  obtain ⟨_, _, accepted⟩ := Outcome.bind_eq_ok.1 accepted
  obtain ⟨_, _, accepted⟩ := Outcome.bind_eq_ok.1 accepted
  obtain ⟨_, _, accepted⟩ := Outcome.bind_eq_ok.1 accepted
  obtain ⟨legs, read, accepted⟩ := Outcome.bind_eq_ok.1 accepted
  cases accepted
  exact Leg.yields_sorted.list.require (Json.Shape.sorted_of_members sorted members) read

/-- The form that a value takes when it is read as a route and the route is written. -/
def normalForm (write : Route → Json) (v : Json) : Except ReadError Json := (ofJson v).map write

def toSortedJson (route : Route) : Json := route.toJson.canonical

end Route

def Compiler.compileJson (compiler : Compiler) (v : Json) (executor : Executor) :
    Except ReadError (Except CompileError Plan) :=
  (Route.ofJson v).map fun route => compiler.compile route executor

namespace Route

variable {v w : Json} {route : Route}

/-- If the written route is read as the route, then it is its own normal form and has the same
plans. -/
theorem exists_normalForm (write : Route → Json) (accepted : ofJson v = .ok route)
    (back : ofJson (write route) = .ok route) :
    ∃ w, normalForm write v = .ok w ∧ normalForm write w = .ok w ∧
      ∀ (compiler : Compiler) executor,
        compiler.compileJson w executor = compiler.compileJson v executor := by
  refine ⟨write route, ?_, ?_, fun compiler executor => ?_⟩
  · rw [normalForm, accepted]
    rfl
  · rw [normalForm, back]
    rfl
  · rw [Compiler.compileJson, Compiler.compileJson, back, accepted]

theorem sorted_of_normalForm (written : normalForm toSortedJson v = .ok w) : w.Sorted := by
  obtain ⟨route, _, rfl⟩ := Outcome.map_eq_ok.1 written
  exact Json.sorted_canonical _

/-- A written route is read as the route, with the fields of its objects in the order of their
declaration, or sorted as the data of its hops is.  So each value that is read as a route has a
normal form, which does not change when it is read and written again, and which compiles to the same
plan or fails with the same error as the value. -/
theorem normalForm_idempotent :
    (∀ route : Route, ofJson route.toJson = .ok route ∧
      (route.SortedData → ofJson route.toSortedJson = .ok route)) ∧
    ∀ v route, ofJson v = .ok route →
      (∃ w, normalForm toJson v = .ok w ∧ normalForm toJson w = .ok w ∧
        ∀ (compiler : Compiler) executor,
          compiler.compileJson w executor = compiler.compileJson v executor) ∧
      (v.Sorted → ∃ w, w.Sorted ∧ normalForm toSortedJson v = .ok w ∧
        normalForm toSortedJson w = .ok w ∧ ∀ (compiler : Compiler) executor,
          compiler.compileJson w executor = compiler.compileJson v executor) := by
  refine ⟨fun route => ⟨route.ofJson_toJson, ofJson_canonical⟩, fun v route accepted => ⟨?_, ?_⟩⟩
  · exact exists_normalForm toJson accepted route.ofJson_toJson
  · intro sorted
    have back := ofJson_canonical (yields_sorted v route sorted accepted)
    obtain ⟨w, written, normal, plans⟩ := exists_normalForm toSortedJson accepted back
    exact ⟨w, sorted_of_normalForm written, written, normal, plans⟩

/-- A route as an array, with steps in both forms and a hop without data. -/
theorem normalForm_idempotent_array :
    let token := "0x1111111111111111111111111111111111111111"
    let v : Json := .array [.string "BUY", .string token, .string token, .string "0x00F",
      .string "ff", .array [.object [("destToken", .string token), ("srcToken", .string token),
        ("steps", .array [.array [.string "wrapNative"], .object [("destAmount", .string "1"),
          ("exchange", .string "Bancor"), ("kind", .string "swap"), ("percent", .int 100),
          ("srcAmount", .string "0")]])]]]
    let hop : Hop := ⟨"Bancor", 100, .zero, .one, .null⟩
    let route : Route := ⟨.buy, .repeated 0x11, .repeated 0x11, .truncate 15, .truncate 255,
      [⟨.repeated 0x11, .repeated 0x11, [.wrapNative, .swap hop]⟩]⟩
    ofJson v = .ok route ∧ v.Sorted ∧ ∃ w, w.Sorted ∧ normalForm toSortedJson v = .ok w ∧
      normalForm toSortedJson w = .ok w ∧ ∀ (compiler : Compiler) executor,
        compiler.compileJson w executor = compiler.compileJson v executor := by
  intro token v hop route
  have accepted : ofJson v = .ok route := by
    subst route hop v token
    rfl
  have canonical : v.canonical = v := by
    subst route hop v token
    rfl
  have sorted : v.Sorted := canonical ▸ Json.sorted_canonical v
  exact ⟨accepted, sorted, (normalForm_idempotent.2 v route accepted).2 sorted⟩

end Route
end SwapPlan
