import SwapPlan.Proofs.Json.Records
import SwapPlan.Proofs.Text.Hex
import SwapPlan.Route.Json
/-!
# Routes written and read again

A written route is read as it is, in whatever order the members of its objects stand: in that of the
declarations or sorted by name.
-/
set_option autoImplicit false

namespace SwapPlan

open Json (Reader Field)

variable {ms : List (String × Json)}

theorem Side.ofJson_toJson (side : Side) : Side.ofJson side.toJson = .ok side := by
  cases side <;> rfl

namespace Hop

variable {hop : Hop}

theorem percentReader_percent (hop : Hop) :
    percentReader (.int hop.percent.toNat) = .ok hop.percent.toNat :=
  Reader.natural_int hop.percent.toNat_lt_size _

theorem lists_of_perm (order : ms.Perm hop.toMembers) : shape.Lists hop.toMembers ms where
  names := by decide
  takes :=
    .cons (Field.takes_mandatory _ (Reader.text_string _)) <|
    .cons (Field.takes_mandatory _ hop.percentReader_percent) <|
    .cons (Field.takes_mandatory _ (Reader.amount_text _)) <|
    .cons (Field.takes_mandatory _ (Reader.amount_text _)) <|
    .cons (Field.takes_optional _ (Reader.any_self _)) .nil
  order := order

/-- The written fields of a hop are read as the hop, in any order. -/
theorem ofJson_of_perm (order : ms.Perm hop.toMembers) : ofJson (.object ms) = .ok hop := by
  have lists := lists_of_perm order
  have exchange := lists.require_eq "exchange" (by simp [toMembers])
    (Reader.text_string hop.exchange)
  have percent := lists.require_eq "percent" (by simp [toMembers])
    hop.percentReader_percent
  have srcAmount := lists.require_eq "srcAmount" (by simp [toMembers])
    (Reader.amount_text hop.srcAmount)
  have destAmount := lists.require_eq "destAmount" (by simp [toMembers])
    (Reader.amount_text hop.destAmount)
  have data := lists.withDefault_eq "data" (by simp [toMembers]) (Reader.any_self hop.data) .null
  rw [ofJson, lists.members_eq, Outcome.ok_bind, exchange, Outcome.ok_bind, percent,
    Outcome.ok_bind, srcAmount, Outcome.ok_bind, destAmount, Outcome.ok_bind, data,
    Outcome.ok_bind, UInt32.ofNat_toNat]
  rfl

end Hop

namespace Step

variable {hop : Hop}

theorem nodup_names (hop : Hop) :
    ((("kind", Json.string "swap") :: hop.toMembers).map Prod.fst).Nodup := by
  show ["kind", "exchange", "percent", "srcAmount", "destAmount", "data"].Nodup
  decide

theorem ofJson_of_perm (order : ms.Perm (("kind", .string "swap") :: hop.toMembers)) :
    ofJson (.object ms) = .ok (.swap hop) := by
  have kind : Json.member? "kind" ms = some (.string "swap") :=
    Json.member?_of_mem ((order.map Prod.fst).nodup_iff.2 (nodup_names hop))
      (order.mem_iff.2 (List.mem_cons_self ..))
  have others : (ms.filter (·.1 ≠ "kind")).Perm hop.toMembers := order.filter _
  have once : ms.countP (·.1 = "kind") = 1 := order.countP_eq _
  simp only [ofJson, kind, once]
  rw [if_neg (fun twice => Nat.lt_irrefl 1 twice.2), ofKind, if_pos rfl, Hop.ofJson_of_perm others]
  rfl

theorem ofJson_toJson (step : Step) : ofJson step.toJson = .ok step := by
  cases step with
  | swap hop => exact ofJson_of_perm (.refl _)
  | wrapNative => rfl
  | unwrapNative => rfl

def SortedData (step : Step) : Prop := ∀ hop ∈ step.hop?, hop.data.Sorted

theorem ofJson_canonical {step : Step} (sorted : step.SortedData) :
    ofJson step.toJson.canonical = .ok step := by
  cases step with
  | swap hop =>
    obtain ⟨ms, object, order⟩ := Json.exists_canonical_object (nodup_names hop)
    have data : hop.data.canonical = hop.data := Json.canonical_eq_self _ (sorted hop rfl)
    rw [toJson, object]
    refine ofJson_of_perm (order.trans ?_)
    simp [Hop.toMembers, Json.canonical, data]
  | wrapNative => rfl
  | unwrapNative => rfl

end Step

namespace Leg

variable {leg : Leg}

theorem ofJson_of_perm {steps : Json} (read : Reader.list Step.ofJson steps = .ok leg.steps)
    (order : ms.Perm [("srcToken", .string leg.srcToken.text),
      ("destToken", .string leg.destToken.text), ("steps", steps)]) :
    ofJson (.object ms) = .ok leg := by
  have lists : shape.Lists _ ms :=
    ⟨by decide, .cons (Field.takes_mandatory _ (Reader.address_text _)) <|
      .cons (Field.takes_mandatory _ (Reader.address_text _)) <|
      .cons (Field.takes_mandatory _ read) .nil, order⟩
  have srcToken := lists.require_eq "srcToken" (by simp)
    (Reader.address_text leg.srcToken)
  have destToken := lists.require_eq "destToken" (by simp)
    (Reader.address_text leg.destToken)
  have steps := lists.require_eq "steps" (by simp) read
  rw [ofJson, lists.members_eq, Outcome.ok_bind, srcToken, Outcome.ok_bind, destToken,
    Outcome.ok_bind, steps, Outcome.ok_bind]
  rfl

theorem ofJson_toJson (leg : Leg) : ofJson leg.toJson = .ok leg :=
  ofJson_of_perm (Reader.list_map fun step _ => step.ofJson_toJson) (.refl _)

def SortedData (leg : Leg) : Prop := ∀ step ∈ leg.steps, step.SortedData

theorem ofJson_canonical (sorted : leg.SortedData) : ofJson leg.toJson.canonical = .ok leg := by
  have names : (leg.toMembers.map Prod.fst).Nodup := by
    show ["srcToken", "destToken", "steps"].Nodup
    decide
  obtain ⟨ms, object, order⟩ := Json.exists_canonical_object names
  have steps := Reader.list_map fun step mem => Step.ofJson_canonical (sorted step mem)
  rw [toJson, object]
  refine ofJson_of_perm steps (order.trans ?_)
  rw [← Json.canonical_array_map]
  exact .refl _

end Leg

namespace Route

variable {route : Route}

theorem ofJson_of_perm {legs : Json} (read : Reader.list Leg.ofJson legs = .ok route.legs)
    (order : ms.Perm [("side", route.side.toJson), ("srcToken", .string route.srcToken.text),
      ("destToken", .string route.destToken.text), ("srcAmount", .string route.srcAmount.text),
      ("destAmount", .string route.destAmount.text), ("legs", legs)]) :
    ofJson (.object ms) = .ok route := by
  have lists : shape.Lists _ ms :=
    ⟨by decide, .cons (Field.takes_mandatory _ route.side.ofJson_toJson) <|
      .cons (Field.takes_mandatory _ (Reader.address_text _)) <|
      .cons (Field.takes_mandatory _ (Reader.address_text _)) <|
      .cons (Field.takes_mandatory _ (Reader.amount_text _)) <|
      .cons (Field.takes_mandatory _ (Reader.amount_text _)) <|
      .cons (Field.takes_mandatory _ read) .nil, order⟩
  have side := lists.require_eq "side" (by simp) route.side.ofJson_toJson
  have srcToken := lists.require_eq "srcToken" (by simp)
    (Reader.address_text route.srcToken)
  have destToken := lists.require_eq "destToken" (by simp)
    (Reader.address_text route.destToken)
  have srcAmount := lists.require_eq "srcAmount" (by simp)
    (Reader.amount_text route.srcAmount)
  have destAmount := lists.require_eq "destAmount" (by simp)
    (Reader.amount_text route.destAmount)
  have legs := lists.require_eq "legs" (by simp) read
  rw [ofJson, lists.members_eq, Outcome.ok_bind, side, Outcome.ok_bind, srcToken, Outcome.ok_bind,
    destToken, Outcome.ok_bind, srcAmount, Outcome.ok_bind, destAmount, Outcome.ok_bind, legs,
    Outcome.ok_bind]
  rfl

theorem ofJson_toJson (route : Route) : ofJson route.toJson = .ok route :=
  ofJson_of_perm (Reader.list_map fun leg _ => leg.ofJson_toJson) (.refl _)

def SortedData (route : Route) : Prop := ∀ leg ∈ route.legs, leg.SortedData

theorem ofJson_canonical (sorted : route.SortedData) : ofJson route.toJson.canonical = .ok route := by
  have names : (route.toMembers.map Prod.fst).Nodup := by
    show ["side", "srcToken", "destToken", "srcAmount", "destAmount", "legs"].Nodup
    decide
  obtain ⟨ms, object, order⟩ := Json.exists_canonical_object names
  have legs := Reader.list_map fun leg mem => Leg.ofJson_canonical (sorted leg mem)
  rw [toJson, object]
  refine ofJson_of_perm legs (order.trans ?_)
  rw [← Json.canonical_array_map]
  exact .refl _

end Route
end SwapPlan
