import SwapPlan.Proofs.Exchange.Contracts
import SwapPlan.Proofs.Plan.Acceptance
import SwapPlan.Proofs.Plan.Patching
/-!
# The instructions of hops and the contracts that a plan calls

A property that conversions have, whatever they convert, holds of all instructions of a plan exactly
if it holds of those of the hops (`Compiler.exists_decode_forall_iff`).

On a network without a fault a plan calls no contract with the zero address but that of an exchange
which the network lists with this address, and then only where the data of the hop gives no other
(`Compiler.compile_targets`).
-/
set_option autoImplicit false

namespace SwapPlan

theorem Record.Carries.length_lt {layout : HeaderLayout} {r : Record} {i : Instruction}
    (h : r.Carries layout i) : i.calldata.length < 2 ^ 256 := by
  obtain ⟨written, encoded, _, rfl⟩ := h
  exact Instruction.length_lt_of_encode (i := written) encoded

theorem length_lt_of_carries {layout : HeaderLayout} {records : List Record}
    {instructions : List Instruction}
    (h : List.Forall₂ (Record.Carries layout) records instructions) :
    ∀ i ∈ instructions, i.calldata.length < 2 ^ 256 := by
  induction h with
  | nil => nofun
  | cons carried _ ih => exact List.forall_mem_cons.2 ⟨carried.length_lt, ih⟩

namespace Compiler

variable {compiler : Compiler} {side : Side} {recipient : Address} {layout : HeaderLayout}

def HopReads (compiler : Compiler) (side : Side) (recipient : Address) (layout : HeaderLayout)
    (leg : Leg) (hop : Hop) (i : Instruction) : Prop :=
  ∃ call positions, compiler.Calls side recipient leg hop call ∧
    call.layout.positions call.calldata = .ok positions ∧
    i = call.reading (layout.kept positions)
      ⟨compiler.wrapsAt leg leg.srcToken, compiler.wrapsAt leg leg.destToken⟩

/-- What the conversions around a leg satisfy holds of the leg if it holds of its hops. -/
theorem LegReads.forall_iff {leg : Leg} {instructions : List Instruction}
    {p : Instruction → Prop} {q : Hop → Prop}
    (h : compiler.LegReads side recipient layout leg instructions)
    (deposits : p compiler.network.depositing)
    (withdraws : ∀ gained, p (compiler.network.withdrawing gained))
    (hops : ∀ hop ∈ leg.hops, ∀ i ∈ instructions,
      compiler.HopReads side recipient layout leg hop i → (p i ↔ q hop)) :
    (∀ i ∈ instructions, p i) ↔ ∀ hop ∈ leg.hops, q hop := by
  obtain ⟨calls, made, gained, called, read, _, rfl⟩ := h
  rw [nativeEnds_eq_wrapsAt called] at read hops ⊢
  have before : ∀ i ∈ (if compiler.wrapsAt leg leg.srcToken then [compiler.network.depositing]
      else []), p i := by
    split <;> simp [deposits]
  have after : ∀ i ∈ (if compiler.wrapsAt leg leg.destToken then
      [compiler.network.withdrawing gained] else []), p i := by
    split <;> simp [withdraws]
  -- With the conversions out of the way, instructions stand to hops one to one.
  have middle : (∀ i ∈ made, p i) ↔ ∀ hop ∈ leg.hops, q hop := by
    refine forall_mem_iff_forall_mem (forall₂_comp called read) ?_
    rintro hop mem i other ⟨call, calls, positions, resolved, reads⟩
    refine hops hop mem i ?_ ⟨call, positions, calls, resolved, reads⟩
    exact List.mem_append_left _ (List.mem_append_right _ other)
  rw [List.forall_mem_append, List.forall_mem_append, middle]
  exact ⟨fun all => all.1.2, fun all => ⟨⟨before, all⟩, after⟩⟩

theorem legsReads_forall_iff {legs : List Leg} {parts : List (List Instruction)}
    {p : Instruction → Prop} {q : Leg → Hop → Prop}
    (h : List.Forall₂ (compiler.LegReads side recipient layout) legs parts)
    (deposits : p compiler.network.depositing)
    (withdraws : ∀ gained, p (compiler.network.withdrawing gained))
    (hops : ∀ leg ∈ legs, ∀ hop ∈ leg.hops, ∀ i ∈ parts.flatten,
      compiler.HopReads side recipient layout leg hop i → (p i ↔ q leg hop)) :
    (∀ i ∈ parts.flatten, p i) ↔ ∀ leg ∈ legs, ∀ hop ∈ leg.hops, q leg hop := by
  rw [List.forall_mem_flatten]
  refine forall_mem_iff_forall_mem h fun leg mem part other read => ?_
  refine read.forall_iff deposits withdraws fun hop among i inside => ?_
  exact hops leg mem hop among i (List.mem_flatten_of_mem other inside)

/-- A compiled plan reads back as instructions of which all have a property that conversions have,
exactly if the hops of the route make it so. -/
theorem exists_decode_forall_iff {network : Network} {route : Route} {executor : Executor}
    {plan : Plan} {p : Instruction → Prop} {q : Leg → Hop → Prop}
    (h : (ofNetwork network).compile route executor = .ok plan)
    (deposits : p network.depositing) (withdraws : ∀ gained, p (network.withdrawing gained))
    (hops : ∀ leg ∈ route.legs, ∀ hop ∈ leg.hops, ∀ i, i.calldata.length < 2 ^ 256 →
      (ofNetwork network).HopReads route.side plan.targetExecutor executor.layout leg hop i →
        (p i ↔ q leg hop)) :
    ∃ instructions, plan.decode = .ok instructions ∧
      ((∀ i ∈ instructions, p i) ↔ ∀ leg ∈ route.legs, ∀ hop ∈ leg.hops, q leg hop) := by
  obtain ⟨parts, _, reads, carry, decoded⟩ := compile_carries h
  have short := length_lt_of_carries carry
  refine ⟨parts.flatten, decoded, ?_⟩
  refine legsReads_forall_iff reads deposits withdraws fun leg mem hop among i inside => ?_
  exact hops leg mem hop among i (short i inside)

end Compiler

def Network.given? (network : Network) (hop : Hop) : Option Address :=
  ((Registry.ofNetwork network).find? hop.exchange).bind fun exchange => exchange.given? hop.data

namespace Compiler

variable {network : Network} {side : Side} {recipient : Address} {leg : Leg} {hop : Hop}

theorem Calls.target {call : ExecutorCall}
    (h : (ofNetwork network).Calls side recipient leg hop call) :
    (network.given? hop).or
        (if hop.exchange.toLower = NativeWrapper.key then some network.wrappedNative
          else network.exchangeAddress? hop.exchange) = some call.target := by
  obtain ⟨exchange, found, made⟩ := h
  have registered : (Registry.ofNetwork network).find? hop.exchange = some exchange := found
  rw [← Exchange.default?_of_find? registered, Network.given?, registered, Option.bind_some]
  exact Exchange.contract_of_executorCall made

/-- A call goes to the zero address only where the data gives no contract and the network lists the
exchange so. -/
theorem Calls.target_ne_zero_iff (fit : network.Fit) (given : network.given? hop ≠ some .zero)
    {call : ExecutorCall} (h : (ofNetwork network).Calls side recipient leg hop call) :
    call.target ≠ .zero ↔
      (network.given? hop = none → hop.exchange.toLower ≠ NativeWrapper.key →
        network.exchangeAddress? hop.exchange ≠ some .zero) := by
  have target := h.target
  cases found : network.given? hop with
  | some contract =>
    rw [found, Option.some_or] at target
    rw [found, target] at given
    exact iff_of_true (fun zero => given (congrArg some zero)) nofun
  | none =>
    rw [found, Option.none_or] at target
    -- The wrapper needs no entry in the network: it is called at the wrapped token.
    by_cases wraps : hop.exchange.toLower = NativeWrapper.key
    · rw [if_pos wraps, Option.some.injEq] at target
      rw [← target]
      exact iff_of_true fit.wrappedNative fun _ other => absurd wraps other
    · rw [if_neg wraps] at target
      simp [target, wraps]

/-- Whether a plan calls the zero address is decided by the hops without a contract of their own. -/
theorem exists_decode_target_iff {route : Route} {executor : Executor} {plan : Plan}
    (fit : network.Fit) (h : (ofNetwork network).compile route executor = .ok plan)
    (given : ∀ leg ∈ route.legs, ∀ hop ∈ leg.hops, network.given? hop ≠ some .zero) :
    ∃ instructions, plan.decode = .ok instructions ∧
      ((∀ i ∈ instructions, i.target ≠ .zero) ↔
        ∀ leg ∈ route.legs, ∀ hop ∈ leg.hops, network.given? hop = none →
          hop.exchange.toLower ≠ NativeWrapper.key →
            network.exchangeAddress? hop.exchange ≠ some .zero) := by
  refine exists_decode_forall_iff h fit.wrappedNative (fun _ => fit.wrappedNative) ?_
  rintro leg mem hop among _ _ ⟨call, positions, called, _, rfl⟩
  exact called.target_ne_zero_iff fit (given leg mem hop among)

/-- On a network without a fault, what a plan approves and executes is not the zero address, and so are
not the contracts it calls, unless a hop without a contract of its own falls back on an exchange that
the network lists with the zero address. -/
theorem compile_targets {route : Route} {executor : Executor} {plan : Plan}
    (sound : network.fault? = none) (h : (ofNetwork network).compile route executor = .ok plan)
    (given : ∀ leg ∈ route.legs, ∀ hop ∈ leg.hops, network.given? hop ≠ some .zero) :
    plan.targetExecutor ≠ .zero ∧ plan.approvalTarget ≠ .zero ∧
    ∃ instructions, plan.decode = .ok instructions ∧
      ((∀ i ∈ instructions, i.target ≠ .zero) ↔
        ∀ leg ∈ route.legs, ∀ hop ∈ leg.hops, network.given? hop = none →
          hop.exchange.toLower ≠ NativeWrapper.key →
            network.exchangeAddress? hop.exchange ≠ some .zero) := by
  have fit := Network.fault?_eq_none_iff.1 sound
  refine ⟨?_, ?_, exists_decode_target_iff fit h given⟩
  all_goals obtain ⟨recipient, records, known, _, _, rfl⟩ := compile_eq_ok_iff.1 h
  · rintro rfl
    exact fit.executors executor known
  · exact fit.tokenTransferProxy

theorem find?_sample (network : Network) (amount : Word) :
    (Registry.ofNetwork network).find? (Hop.sample amount).exchange =
      some (.pairRouter (.ofNetwork network)) := by
  have mem : Exchange.pairRouter (.ofNetwork network) ∈ Exchange.ofNetwork network := by
    simp [Exchange.ofNetwork]
  exact Registry.find?_of_mem mem (Exchange.pairRouter (.ofNetwork network)).toLower_key

theorem given?_sample (network : Network) (amount : Word) :
    network.given? (.sample amount) = none := by
  rw [Network.given?, find?_sample]
  rfl

theorem given?_sample_ne_zero (network : Network) (amount : Word) :
    ∀ leg ∈ (Route.sample amount).legs, ∀ hop ∈ leg.hops, network.given? hop ≠ some .zero := by
  simp [Route.sample, Leg.hops, Step.hop?, given?_sample]

/-- The sample route compiles wherever there are the executor and a router. -/
theorem exists_compile_router {network : Network} {executor : Executor}
    {recipient router : Address} (amount : Word)
    (known : network.executorAddress? executor = some recipient)
    (listed : network.exchangeAddress? PairRouter.key = some router) :
    ∃ plan, (ofNetwork network).compile (.sample amount) executor = .ok plan := by
  let request : SwapRequest := ⟨.repeated 0xEE, .repeated 0x11, amount, .one, .sell⟩
  let tokens : List Address := [.repeated 0xEE, .repeated 0x11]
  have routed : (PairRouter.ofNetwork network).path request ⟨none, []⟩ =
      .ok (tokens.map (PairRouter.ofNetwork network).wrapped) := rfl
  have addressed : (PairRouter.ofNetwork network).routerAddress ⟨none, []⟩ = .ok router :=
    addressOr_eq_ok_iff.2 listed
  have called : (ofNetwork network).Calls .sell recipient
      ⟨.repeated 0xEE, .repeated 0x11, [.swap (.sample amount)]⟩ (.sample amount)
      (PairRouter.swapCall request (tokens.map (PairRouter.ofNetwork network).wrapped) recipient
        router) := by
    refine ⟨.pairRouter (.ofNetwork network), find?_sample network amount, ?_⟩
    exact PairRouter.executorCall_eq_ok_iff.2 ⟨⟨none, []⟩, _, _, rfl, routed, addressed, rfl⟩
  have whole : (Hop.sample amount).percent = 100 := rfl
  refine exists_compile_single known whole called fun flags => ?_
  exact PairRouter.exists_packs rfl (le_refl 2) (by simp [tokens]) flags executor.layout

theorem compile_targets_sample :
    ∃ plan, Network.sample.fault? = none ∧
      (ofNetwork .sample).compile (.sample .one) .first = .ok plan ∧
      (∀ leg ∈ (Route.sample .one).legs, ∀ hop ∈ leg.hops,
        Network.sample.given? hop ≠ some .zero) ∧
      plan.targetExecutor ≠ .zero ∧ plan.approvalTarget ≠ .zero ∧
      ∃ instructions, plan.decode = .ok instructions ∧ ∀ i ∈ instructions, i.target ≠ .zero := by
  obtain ⟨plan, compiled⟩ := exists_compile_sample .one
  have sound : Network.sample.fault? = none := by decide
  have given := given?_sample_ne_zero .sample .one
  obtain ⟨executor, approved, instructions, decoded, targets⟩ :=
    compile_targets sound compiled given
  refine ⟨plan, sound, compiled, given, executor, approved, instructions, decoded, targets.2 ?_⟩
  have listed : Network.sample.exchangeAddress? PairRouter.key = some (.repeated 0x22) := by cbv
  have router : Address.repeated 0x22 ≠ .zero := by decide
  simp [Route.sample, Leg.hops, Step.hop?, Hop.sample, listed, router]

/-- A network without a fault may list an exchange with the zero address, and plans then call it. -/
theorem exists_zero_target :
    let network : Network :=
      { Network.sample with exchanges := AddressBook.empty.insert PairRouter.key .zero }
    network.fault? = none ∧
    (∀ leg ∈ (Route.sample .one).legs, ∀ hop ∈ leg.hops, network.given? hop ≠ some .zero) ∧
    ∃ plan instructions, (ofNetwork network).compile (.sample .one) .first = .ok plan ∧
      plan.decode = .ok instructions ∧ ∃ i ∈ instructions, i.target = .zero := by
  intro network
  have sound : network.fault? = none := by decide
  have given := given?_sample_ne_zero network .one
  have listed : network.exchangeAddress? PairRouter.key = some .zero := by cbv
  have known : network.executorAddress? .first = some (.repeated 0xE1) := by decide
  obtain ⟨plan, compiled⟩ := exists_compile_router .one known listed
  obtain ⟨instructions, decoded, targets⟩ :=
    exists_decode_target_iff (Network.fault?_eq_none_iff.1 sound) compiled given
  refine ⟨sound, given, plan, instructions, compiled, decoded, ?_⟩
  by_contra none
  have all : ∀ i ∈ instructions, i.target ≠ .zero := fun i mem zero => none ⟨i, mem, zero⟩
  have router := targets.1 all ⟨.repeated 0xEE, .repeated 0x11, [.swap (.sample .one)]⟩
    (List.mem_singleton.2 rfl) (.sample .one) (List.mem_singleton.2 rfl)
    (given?_sample network .one) (by cbv)
  exact router listed

end Compiler
end SwapPlan
