import SwapPlan.Plan.Compilation
import SwapPlan.Proofs.Exchange.Registration
import SwapPlan.Proofs.Outcome
import SwapPlan.Proofs.Plan.Reading
/-!
# How names of exchanges are spelled

The names of exchanges in a route may be spelled in any case.  A route compiles as the one with all
names in lower case does, but that its errors quote the names as they are spelled
(`Compiler.compile_folded`).
-/
set_option autoImplicit false

namespace SwapPlan

theorem Text.toLower_toLower (s : String) : s.toLower.toLower = s.toLower := by
  have char (c : Char) : c.toLower.toLower = c.toLower := by
    simp only [Char.toLower]
    split <;> grind
  rw [String.toLower, String.toLower, String.map_map]
  congr 1
  exact funext char

def Hop.folded (hop : Hop) : Hop := { hop with exchange := hop.exchange.toLower }

def Step.folded : Step → Step
  | swap hop => swap hop.folded
  | wrapNative => wrapNative
  | unwrapNative => unwrapNative

def Leg.folded (leg : Leg) : Leg := { leg with steps := leg.steps.map Step.folded }

def Route.folded (route : Route) : Route := { route with legs := route.legs.map Leg.folded }

/-- The error with the name of the exchange that it quotes in lower case. -/
def CompileError.folded : CompileError → CompileError
  | unsupportedSide hop name side => unsupportedSide hop name.toLower side
  | unknownExchange hop name => unknownExchange hop name.toLower
  | exchange hop name cause => exchange hop name.toLower cause
  | e => e

theorem CompileError.folded_ofExchange (hop : Nat) (name : String) (cause : ExchangeError) :
    (ofExchange hop name cause).folded = ofExchange hop name.toLower cause := by
  cases cause <;> rfl

theorem ExecutorCall.mapError_pack (call : ExecutorCall) (flags : Flags) (chained : Bool)
    (hop : Nat) (layout : HeaderLayout) :
    (call.pack flags chained hop layout).mapError CompileError.folded =
      call.pack flags chained hop layout := by
  rw [pack, Outcome.mapError_bind, Outcome.mapError_mapError]
  congr 1
  funext positions
  rw [apply_ite (Except.mapError CompileError.folded), Outcome.mapError_mapError]
  rfl

namespace Leg

variable {leg : Leg} {network : Network}

theorem hops_folded (leg : Leg) : leg.folded.hops = leg.hops.map Hop.folded := by
  rw [hops, hops, folded, List.filterMap_map, List.map_filterMap]
  congr 1
  funext step
  cases step <;> rfl

theorem splitTotal_folded (leg : Leg) : leg.folded.splitTotal = leg.splitTotal := by
  rw [splitTotal, splitTotal, hops_folded, List.foldr_map]
  rfl

theorem total?_folded (leg : Leg) (field : AmountField) :
    leg.folded.total? field = leg.total? field := by
  rw [total?, total?, hops_folded, List.foldr_map]
  cases field <;> rfl

theorem any_steps_folded {p : Step → Bool} (same : ∀ step, p step.folded = p step) (leg : Leg) :
    leg.folded.steps.any p = leg.steps.any p := by
  rw [folded, List.any_map]
  congr 1
  exact funext same

theorem asksWrap_folded (leg : Leg) : leg.folded.asksWrap = leg.asksWrap :=
  leg.any_steps_folded fun step => by cases step <;> rfl

theorem asksUnwrap_folded (leg : Leg) : leg.folded.asksUnwrap = leg.asksUnwrap :=
  leg.any_steps_folded fun step => by cases step <;> rfl

theorem stepFault?_folded (leg : Leg) (position : Nat) (step : Step) :
    leg.folded.stepFault? network position step.folded = leg.stepFault? network position step := by
  have length : leg.folded.steps.length = leg.steps.length := List.length_map _
  cases step <;> simp only [Step.folded, stepFault?, length] <;> rfl

theorem wrapFault?_folded (leg : Leg) : leg.folded.wrapFault? network = leg.wrapFault? network := by
  have steps (position : Nat) (steps : List Step) :
      leg.folded.wrapFaultFrom? network position (steps.map Step.folded) =
        leg.wrapFaultFrom? network position steps := by
    induction steps generalizing position with
    | nil => rfl
    | cons step rest ih =>
      rw [List.map_cons, wrapFaultFrom?, wrapFaultFrom?, stepFault?_folded, ih]
  exact steps 0 leg.steps

end Leg

namespace Route

theorem firstEmpty?_folded (position : Nat) (legs : List Leg) :
    firstEmpty? position (legs.map Leg.folded) = firstEmpty? position legs := by
  induction legs generalizing position with
  | nil => rfl
  | cons leg rest ih =>
    rw [List.map_cons, firstEmpty?, firstEmpty?, ih, Leg.hops_folded, List.isEmpty_map]

theorem firstBreak?_folded (position : Nat) (legs : List Leg) :
    firstBreak? position (legs.map Leg.folded) = firstBreak? position legs := by
  induction legs generalizing position with
  | nil => rfl
  | cons leg rest ih =>
    cases rest with
    | nil => rfl
    | cons next rest =>
      simp only [List.map_cons] at ih ⊢
      rw [firstBreak?, firstBreak?, ih]
      rfl

theorem fault?_folded (route : Route) : route.folded.fault? = route.fault? := by
  rw [fault?, fault?, folded]
  simp only [List.head?_map, List.getLast?_map, firstEmpty?_folded, firstBreak?_folded]
  cases route.legs.head? <;> cases route.legs.getLast? <;> rfl

end Route

namespace Compiler

variable {compiler : Compiler} {context : LegContext} {leg : Leg}

theorem find?_toLower (registry : Registry) (name : String) :
    registry.find? name.toLower = registry.find? name := by
  rw [Registry.find?, Registry.find?, Text.toLower_toLower]

theorem hopCall_folded (position : Nat) (hop : Hop) :
    compiler.hopCall context leg.folded position hop.folded =
      (compiler.hopCall context leg position hop).mapError CompileError.folded := by
  simp only [hopCall, Hop.folded, find?_toLower]
  cases compiler.registry.find? hop.exchange with
  | none => rfl
  | some exchange =>
    simp only [Outcome.mapError_mapError, Function.comp_def, CompileError.folded_ofExchange]
    rfl

theorem hopCalls_folded (position : Nat) (hops : List Hop) :
    compiler.hopCalls context leg.folded position (hops.map Hop.folded) =
      (compiler.hopCalls context leg position hops).mapError CompileError.folded := by
  induction hops generalizing position with
  | nil => rfl
  | cons hop rest ih =>
    rw [List.map_cons, hopCalls, hopCalls, hopCall_folded, ih, Outcome.mapError_bind]
    simp only [Outcome.mapError_bind]
    rfl

theorem nativeEdges_folded (calls : List ExecutorCall) (firstHop : Nat) :
    compiler.nativeEdges leg.folded calls firstHop =
      (compiler.nativeEdges leg calls firstHop).mapError CompileError.folded := by
  simp only [nativeEdges, Leg.asksWrap_folded, Leg.asksUnwrap_folded]
  cases calls.findIdx? (!·.needsWrap) with
  | none => rfl
  | some position =>
    simp only [apply_ite (Except.mapError CompileError.folded)]
    rfl

theorem edgeRecord_folded (needed : Bool) (field : AmountField)
    (conversion : NativeWrapper.Conversion) (hop : Nat) :
    compiler.edgeRecord context leg.folded needed field conversion hop =
      (compiler.edgeRecord context leg needed field conversion hop).mapError
        CompileError.folded := by
  cases needed with
  | false => rfl
  | true =>
    simp only [edgeRecord, if_pos, Leg.total?_folded]
    cases leg.total? field with
    | none => rfl
    | some amount =>
      have key : NativeWrapper.key.toLower = NativeWrapper.key :=
        (Exchange.nativeWrapper compiler.registry.wrapper).toLower_key
      simp only [Outcome.mapError_bind, Outcome.mapError_mapError, Function.comp_def,
        CompileError.folded_ofExchange, key, ExecutorCall.mapError_pack]
      rfl

theorem mapError_hopRecords (flags : Flags) (position : Nat) (calls : List ExecutorCall) :
    (hopRecords context flags position calls).mapError CompileError.folded =
      hopRecords context flags position calls := by
  induction calls generalizing position with
  | nil => rfl
  | cons call rest ih =>
    simp only [hopRecords, Outcome.mapError_bind, ExecutorCall.mapError_pack, ih]
    rfl

theorem legRecords_folded (context : LegContext) (leg : Leg) :
    compiler.legRecords context leg.folded =
      (compiler.legRecords context leg).mapError CompileError.folded := by
  rw [legRecords, legRecords, Leg.splitTotal_folded, Leg.wrapFault?_folded]
  split
  · rfl
  · cases leg.wrapFault? compiler.network with
    | some fault => rfl
    | none =>
      simp only [Leg.hops_folded, hopCalls_folded, nativeEdges_folded, edgeRecord_folded,
        Outcome.mapError_bind, mapError_hopRecords, List.length_map]
      rfl

theorem legsRecords_folded (context : LegContext) (legs : List Leg) :
    compiler.legsRecords context (legs.map Leg.folded) =
      (compiler.legsRecords context legs).mapError CompileError.folded := by
  induction legs generalizing context with
  | nil => rfl
  | cons leg rest ih =>
    simp only [List.map_cons, legsRecords, legRecords_folded, ih, Outcome.mapError_bind, Leg.hops_folded, List.length_map]
    rfl

/-- A route compiles as it does with all names in lower case, but for the names that errors
quote. -/
theorem compile_folded (compiler : Compiler) (route : Route) (executor : Executor) :
    compiler.compile route.folded executor =
      (compiler.compile route executor).mapError CompileError.folded := by
  rw [compile, compile]
  cases compiler.network.executorAddress? executor with
  | none => rfl
  | some recipient =>
    rw [Route.fault?_folded]
    cases route.fault? with
    | some fault => rfl
    | none =>
      simp only [Route.folded, legsRecords_folded, Outcome.mapError_bind]
      rfl

theorem compile_of_folded_eq (compiler : Compiler) {route other : Route} (same : other.folded = route.folded)
    (executor : Executor) :
    (compiler.compile other executor).mapError CompileError.folded =
      (compiler.compile route executor).mapError CompileError.folded := by
  rw [← compile_folded, ← compile_folded, same]

end Compiler

/-- After any exchanges were registered on a chain, a name is known exactly if it is one of the four
in some case; what is found is what was registered last under it, or else the exchange of the chain.
The names known and the wrapper are those of the chain, and exchanges of different names may be
registered in either order.  So names of a route that differ in case only have the same plans, and
fail with the same errors but for the case of the names that these quote. -/
theorem Registry.lookup_after (network : Network) (history : List Exchange) :
    (∀ name, (after network history).find? name =
      (history.reverse ++ Exchange.ofNetwork network).find? (·.key = name.toLower)) ∧
    (∀ name, ((after network history).find? name).isSome ↔
      name.toLower ∈ ["bancor", "uniswapv2", "makerpsm", "weth"]) ∧
    (after network history).keys = ["bancor", "uniswapv2", "makerpsm", "weth"] ∧
    (after network history).wrapper = .ofNetwork network ∧
    (∀ exchange other : Exchange, exchange.key ≠ other.key →
      ((after network history).register exchange).register other =
        ((after network history).register other).register exchange) ∧
    ∀ (chain : Network) (route other : Route) executor, other.folded = route.folded →
      let compiler : Compiler := ⟨chain, after network history⟩
      (∀ plan, compiler.compile other executor = .ok plan ↔
        compiler.compile route executor = .ok plan) ∧
      (compiler.compile other executor).mapError CompileError.folded =
        (compiler.compile route executor).mapError CompileError.folded := by
  have keys := keys_after network history
  refine ⟨find?_after network history, fun name => ?_, keys, wrapper_after network history,
    fun exchange other different => register_comm keys different, ?_⟩
  · rw [isSome_find?_iff, keys]
    rfl
  · intro chain route other executor same compiler
    have alike := compiler.compile_of_folded_eq same executor
    refine ⟨fun plan => ?_, alike⟩
    rw [← Outcome.mapError_eq_ok (f := CompileError.folded), alike, Outcome.mapError_eq_ok]

/-- A router without an address takes the place of that of the chain, under a name in another
case. -/
theorem Registry.lookup_after_sample :
    let router : Exchange := .pairRouter (.ofNetwork { Network.sample with exchanges := .empty })
    let converter : Exchange := .converter (.ofNetwork .sample)
    let registry := after .sample [router]
    let route := Route.sample .one
    let hop := { Hop.sample .one with exchange := "UniswapV2" }
    let other : Route := { route with legs := [⟨route.srcToken, route.destToken, [.swap hop]⟩] }
    router.key ≠ converter.key ∧ other.folded = route.folded ∧
      registry.find? "UNISWAPV2" = some router ∧ registry.keys = names ∧
      (registry.register router).register converter =
        (registry.register converter).register router ∧
      ((Compiler.mk .sample registry).compile other .first).mapError CompileError.folded =
        ((Compiler.mk .sample registry).compile route .first).mapError CompileError.folded := by
  intro router converter registry route hop other
  have different : router.key ≠ converter.key := by decide
  have spelled : "UniswapV2".toLower = PairRouter.key.toLower := by cbv
  have lower : "UNISWAPV2".toLower = router.key := by cbv
  have same : other.folded = route.folded := by
    simp only [other, route, hop, Route.folded, Route.sample, Hop.sample, List.map_cons,
      Leg.folded, Step.folded, Hop.folded, spelled]
  obtain ⟨found, _, known, _, commute, compiled⟩ := lookup_after .sample [router]
  refine ⟨different, same, ?_, known, commute router converter different,
    (compiled .sample route other .first same).2⟩
  rw [found, lower]
  rfl

end SwapPlan
