import SwapPlan.Proofs.Plan.Reading
import SwapPlan.Proofs.Pointwise
/-!
# Which routes compile

A route compiles exactly if the executor is known, the legs lead from end to end, and each leg on its
own meets the conditions of `Compiler.LegSound`.  Sums in them are sums of numbers, without a bound.
-/
set_option autoImplicit false

namespace SwapPlan

namespace Leg

variable {leg : Leg}

theorem splitTotal_eq_hundred_iff :
    leg.splitTotal = 100 ↔ (leg.hops.map (·.percent.toNat)).sum = 100 := by
  rw [splitTotal, List.sum_eq_foldr, List.foldr_map]
  have large : 100 < UInt32.size - 1 := by decide
  omega

theorem exists_total?_iff {field : AmountField} :
    (∃ amount, leg.total? field = some amount) ↔
      (leg.hops.map fun hop => (field.of hop).toNat).sum < 2 ^ 256 := by
  rw [total?, Word.ofNat?, List.sum_eq_foldr, List.foldr_map]
  have bound : capacity Word.size = 2 ^ 256 := by decide
  rw [← bound]
  split
  · rename_i fits
    exact iff_of_true ⟨_, rfl⟩ fits
  · rename_i large
    exact iff_of_false (by simp) large

end Leg

namespace Compiler

variable {compiler : Compiler} {side : Side} {recipient : Address} {layout : HeaderLayout}
  {chained : Bool} {leg : Leg} {calls : List ExecutorCall}

/-- The input of a leg is wrapped: the leg asks for it, or one of its calls needs it at a native
source. -/
def WrapsInput (compiler : Compiler) (leg : Leg) (calls : List ExecutorCall) : Prop :=
  .wrapNative ∈ leg.steps ∨
    compiler.network.isNative leg.srcToken = true ∧ ∃ call ∈ calls, call.needsWrap = true

def UnwrapsOutput (compiler : Compiler) (leg : Leg) (calls : List ExecutorCall) : Prop :=
  .unwrapNative ∈ leg.steps ∨
    compiler.network.isNative leg.destToken = true ∧ ∃ call ∈ calls, call.needsWrap = true

/-- What a leg needs to compile, with the calls of its hops. -/
structure LegSound (compiler : Compiler) (side : Side) (recipient : Address)
    (layout : HeaderLayout) (chained : Bool) (leg : Leg) (calls : List ExecutorCall) : Prop where
  ordered : leg.IsOrdered compiler.network
  shares : (leg.hops.map (·.percent.toNat)).sum = 100
  made : List.Forall₂ (compiler.Calls side recipient leg) leg.hops calls
  uniform : compiler.WrapsInput leg calls ∨ compiler.UnwrapsOutput leg calls →
    ∀ call ∈ calls, call.needsWrap = true
  spent : compiler.WrapsInput leg calls → (leg.hops.map (·.srcAmount.toNat)).sum < 2 ^ 256
  gained : compiler.UnwrapsOutput leg calls → (leg.hops.map (·.destAmount.toNat)).sum < 2 ^ 256
  packs : ∀ call ∈ calls, ∃ record,
    call.Packs (compiler.edges leg calls).flags chained layout record

theorem edges_wrap_iff : (compiler.edges leg calls).wrap = true ↔ compiler.WrapsInput leg calls := by
  simp only [edges, WrapsInput, Bool.or_eq_true, Bool.and_eq_true, List.any_eq_true,
    Leg.asksWrap_iff, and_comm]

theorem edges_unwrap_iff :
    (compiler.edges leg calls).unwrap = true ↔ compiler.UnwrapsOutput leg calls := by
  simp only [edges, UnwrapsOutput, Bool.or_eq_true, Bool.and_eq_true, List.any_eq_true,
    Leg.asksUnwrap_iff, and_comm]

/-- A conversion around a leg fails only if the amounts of the leg add up to too much. -/
theorem exists_edgePacks_iff {needed : Bool} {field : AmountField}
    {conversion : NativeWrapper.Conversion} :
    (∃ records, compiler.EdgePacks layout leg needed field conversion records) ↔
      (needed = true → (leg.hops.map fun hop => (field.of hop).toNat).sum < 2 ^ 256) := by
  rw [← Leg.exists_total?_iff]
  cases needed with
  | false => exact iff_of_true ⟨[], rfl⟩ nofun
  | true =>
    constructor
    · rintro ⟨_, amount, _, _, total, _⟩ _
      exact ⟨amount, total⟩
    · intro fits
      obtain ⟨amount, total⟩ := fits rfl
      obtain ⟨record, packed⟩ :=
        compiler.registry.wrapper.exists_packs conversion amount .empty layout
      exact ⟨[record], amount, _, record, total, NativeWrapper.convert_eq_ok _ _ _, packed, rfl⟩

theorem exists_legPacks_iff :
    (leg.hops ≠ [] ∧ ∃ records, compiler.LegPacks side recipient layout chained leg records) ↔
      ∃ calls, compiler.LegSound side recipient layout chained leg calls := by
  constructor
  · rintro ⟨nonempty, _, shares, placed, calls, before, hops, after, made, uniform, first, packs,
      last, _⟩
    rw [edges_wrap_iff, edges_unwrap_iff] at uniform
    have spent := exists_edgePacks_iff.1 ⟨before, first⟩
    have gained := exists_edgePacks_iff.1 ⟨after, last⟩
    rw [edges_wrap_iff] at spent
    rw [edges_unwrap_iff] at gained
    exact ⟨calls, Leg.wrapFault?_eq_none_iff.1 ⟨placed, nonempty⟩,
      Leg.splitTotal_eq_hundred_iff.1 shares, made, uniform, spent, gained,
      exists_forall₂_iff.1 ⟨hops, packs⟩⟩
  · rintro ⟨calls, ordered, shares, made, uniform, spent, gained, packs⟩
    obtain ⟨placed, nonempty⟩ := Leg.wrapFault?_eq_none_iff.2 ordered
    rw [← edges_wrap_iff, ← edges_unwrap_iff] at uniform
    rw [← edges_wrap_iff] at spent
    rw [← edges_unwrap_iff] at gained
    obtain ⟨before, first⟩ : ∃ records, compiler.EdgePacks layout leg
        (compiler.edges leg calls).wrap .srcAmount .wrap records := exists_edgePacks_iff.2 spent
    obtain ⟨after, last⟩ : ∃ records, compiler.EdgePacks layout leg
        (compiler.edges leg calls).unwrap .destAmount .unwrap records := exists_edgePacks_iff.2 gained
    obtain ⟨hops, packed⟩ := exists_forall₂_iff.2 packs
    exact ⟨nonempty, _, Leg.splitTotal_eq_hundred_iff.2 shares, placed, calls, before, hops, after,
      made, uniform, first, packed, last, rfl⟩

theorem exists_legsRecords_iff {context : LegContext} {legs : List Leg} :
    (∃ records, compiler.legsRecords context legs = .ok records) ↔
      ∀ entry ∈ legs.zipIdx context.leg, ∃ records, compiler.LegPacks context.side
        context.recipient context.layout (0 < entry.2) entry.1 records := by
  rw [← exists_forall₂_iff]
  constructor
  · rintro ⟨_, compiled⟩
    obtain ⟨parts, packs, _⟩ := legsRecords_eq_ok_iff.1 compiled
    exact ⟨parts, packs⟩
  · rintro ⟨parts, packs⟩
    exact ⟨_, legsRecords_eq_ok_iff.2 ⟨parts, packs, rfl⟩⟩

/-- A route compiles for an executor exactly if the network has the executor, the legs lead from the
source to the destination, and each leg is sound, the legs behind the first as chained ones. -/
theorem exists_compile_iff {route : Route} {executor : Executor} :
    (∃ plan, compiler.compile route executor = .ok plan) ↔
      ∃ recipient, compiler.network.executorAddress? executor = some recipient ∧ route.Joined ∧
        ∀ position leg, route.legs[position]? = some leg →
          ∃ calls, compiler.LegSound route.side recipient executor.layout (0 < position) leg
            calls := by
  constructor
  · rintro ⟨plan, compiled⟩
    obtain ⟨recipient, records, known, shape, packed, _⟩ := compile_eq_ok_iff.1 compiled
    obtain ⟨joined, nonempty⟩ := Route.fault?_eq_none_iff.1 shape
    refine ⟨recipient, known, joined, fun position leg found => ?_⟩
    have packs := exists_legsRecords_iff.1 ⟨records, packed⟩ (leg, position)
      (List.mem_zipIdx_iff_getElem?.2 found)
    exact exists_legPacks_iff.1 ⟨nonempty leg (List.mem_of_getElem? found), packs⟩
  · rintro ⟨recipient, known, joined, sound⟩
    have nonempty : ∀ leg ∈ route.legs, leg.hops ≠ [] := by
      intro leg mem
      obtain ⟨position, found⟩ := List.mem_iff_getElem?.1 mem
      exact (exists_legPacks_iff.2 (sound position leg found)).1
    obtain ⟨records, packed⟩ : ∃ records, compiler.legsRecords
        ⟨route.side, executor.layout, recipient, 0, 0⟩ route.legs = .ok records := by
      refine exists_legsRecords_iff.2 fun entry mem => ?_
      have found := List.mem_zipIdx_iff_getElem?.1 mem
      exact (exists_legPacks_iff.2 (sound entry.2 entry.1 found)).2
    exact ⟨_, compile_eq_ok_iff.2 ⟨recipient, records, known,
      Route.fault?_eq_none_iff.2 ⟨joined, nonempty⟩, packed, rfl⟩⟩

theorem exists_compile_iff_sample :
    ∃ recipient, Network.sample.executorAddress? .first = some recipient ∧
      (Route.sample .one).Joined ∧ ∀ position leg, (Route.sample .one).legs[position]? = some leg →
        ∃ calls, (ofNetwork .sample).LegSound .sell recipient .basic (0 < position) leg calls :=
  exists_compile_iff.1 (exists_compile_sample .one)

section Single

variable {srcToken destToken : Address} {spent gained : Word} {hop : Hop} {call : ExecutorCall}
  {executor : Executor}

theorem fault?_single : (⟨side, srcToken, destToken, spent, gained,
    [⟨srcToken, destToken, [.swap hop]⟩]⟩ : Route).fault? = none := by
  simp [Route.fault?, Route.firstEmpty?, Route.firstBreak?, Leg.hops, Step.hop?]

theorem ordered_single {network : Network} :
    Leg.IsOrdered network ⟨srcToken, destToken, [.swap hop]⟩ :=
  ⟨false, false, [hop], nofun, rfl, nofun, nofun⟩

theorem shares_single (whole : hop.percent = 100) :
    ((⟨srcToken, destToken, [.swap hop]⟩ : Leg).hops.map (·.percent.toNat)).sum = 100 := by
  simp [Leg.hops, Step.hop?, whole]

theorem uniform_single :
    compiler.WrapsInput ⟨srcToken, destToken, [.swap hop]⟩ [call] ∨
      compiler.UnwrapsOutput ⟨srcToken, destToken, [.swap hop]⟩ [call] →
    ∀ c ∈ [call], c.needsWrap = true := by
  rintro (edge | edge) <;> simp [WrapsInput, UnwrapsOutput] at edge <;> simpa using edge.2

theorem amount_single (field : AmountField) :
    ((⟨srcToken, destToken, [.swap hop]⟩ : Leg).hops.map fun hop => (field.of hop).toNat).sum <
      2 ^ 256 := by
  have bound : capacity Word.size = 2 ^ 256 := by decide
  simpa [Leg.hops, Step.hop?, bound] using (field.of hop).toNat_lt

/-- A swap over a single hop compiles if the call of its exchange fits a record. -/
theorem exists_compile_single (known : compiler.network.executorAddress? executor = some recipient)
    (whole : hop.percent = 100)
    (called : compiler.Calls side recipient ⟨srcToken, destToken, [.swap hop]⟩ hop call)
    (packs : ∀ flags, ∃ record, call.Packs flags false executor.layout record) :
    ∃ plan, compiler.compile
      ⟨side, srcToken, destToken, spent, gained, [⟨srcToken, destToken, [.swap hop]⟩]⟩ executor =
        .ok plan := by
  have sound : compiler.LegSound side recipient executor.layout false
      ⟨srcToken, destToken, [.swap hop]⟩ [call] := {
    ordered := ordered_single
    shares := shares_single whole
    made := .cons called .nil
    uniform := uniform_single
    spent := fun _ => amount_single .srcAmount
    gained := fun _ => amount_single .destAmount
    packs := fun c mem => by
      rw [List.mem_singleton.1 mem]
      exact packs _ }
  obtain ⟨_, records, packed⟩ := exists_legPacks_iff.2 ⟨_, sound⟩
  obtain ⟨all, compiled⟩ : ∃ records, compiler.legsRecords ⟨side, executor.layout, recipient, 0, 0⟩
      [⟨srcToken, destToken, [.swap hop]⟩] = .ok records := by
    refine exists_legsRecords_iff.2 fun entry mem => ?_
    rw [List.mem_singleton.1 mem]
    exact ⟨records, packed⟩
  exact ⟨_, compile_eq_ok_iff.2 ⟨recipient, all, known, fault?_single, compiled, rfl⟩⟩

end Single

end Compiler
end SwapPlan
