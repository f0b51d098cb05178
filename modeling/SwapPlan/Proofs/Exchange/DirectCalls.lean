import SwapPlan.Proofs.Exchange.Contracts
import SwapPlan.Proofs.Exchange.Refusals
/-!
# Direct calls and calls for executors

An exchange forms the two kinds of calls apart and checks them in different orders.  Nevertheless a
request has both or neither, they go to the same contract, and with the contract that calls directly
as recipient they are the same bytes (`Exchange.directCall_agrees`).
-/
set_option autoImplicit false

namespace SwapPlan

def ExecutorCall.direct (call : ExecutorCall) (approveTarget : Address) (value : Word) :
    DirectCall where
  approveTarget := approveTarget
  calldata := call.calldata
  target := call.target
  value := value
  networkFee := .zero

variable {request : SwapRequest} {data : Json} {direct : DirectCall}

theorem Converter.directCall_eq_ok_iff {converter : Converter} :
    converter.directCall request data = .ok direct ↔
      ∃ hop network, accept request data = .ok hop ∧ 2 ≤ hop.path.length ∧
        converter.networkAddress hop = .ok network ∧
        direct = (conversionCall request hop network).direct network
          (if request.srcToken = converter.nativeToken then request.srcAmount else .zero) := by
  simp only [directCall, Outcome.bind_eq_ok, Outcome.pure_eq_ok, calldata_eq_ok_iff]
  constructor
  · rintro ⟨hop, accepted, network, known, _, ⟨long, rfl⟩, rfl⟩
    exact ⟨hop, network, accepted, long, known, rfl⟩
  · rintro ⟨hop, network, accepted, long, known, rfl⟩
    exact ⟨hop, accepted, network, known, _, ⟨long, rfl⟩, rfl⟩

theorem PairRouter.directCall_eq_ok_iff {router : PairRouter} :
    router.directCall request data = .ok direct ↔
      ∃ hop path target, accept request data = .ok hop ∧ router.path request hop = .ok path ∧
        router.routerAddress hop = .ok target ∧
        direct = (swapCall request path router.augustus target).direct target .zero := by
  simp only [directCall, Outcome.bind_eq_ok, Outcome.pure_eq_ok, calldata, encodeCall_eq_ok_iff,
    fit_arguments, true_and]
  constructor
  · rintro ⟨hop, accepted, target, known, path, found, _, rfl, rfl⟩
    exact ⟨hop, path, target, accepted, found, known, rfl⟩
  · rintro ⟨hop, path, target, accepted, found, known, rfl⟩
    exact ⟨hop, accepted, target, known, path, found, _, rfl, rfl⟩

def PegModule.approved (hop : HopData) (target : Address) : Direction → Address
  | .sellsGem => hop.gemJoin
  | .buysGem => target

theorem PegModule.directCall_eq_ok_iff {peg : PegModule} :
    peg.directCall request data = .ok direct ↔
      ∃ hop way amount target, accept request data = .ok hop ∧ direction request hop = .ok way ∧
        gemAmount request hop way = .ok amount ∧ peg.psmAddress hop = .ok target ∧
        direct = (gemCall way amount peg.augustus target).direct (approved hop target way)
          .zero := by
  simp only [directCall, Outcome.bind_eq_ok, Outcome.pure_eq_ok]
  constructor
  · rintro ⟨hop, accepted, target, known, ⟨way, _⟩, called, rfl⟩
    obtain ⟨chosen, amount, moved, rfl⟩ := call_eq_ok_iff.1 called
    exact ⟨hop, way, amount, target, accepted, chosen, moved, known, by cases way <;> rfl⟩
  · rintro ⟨hop, way, amount, target, accepted, chosen, moved, known, rfl⟩
    refine ⟨hop, accepted, target, known, (way, _), call_eq_ok_iff.2 ⟨chosen, amount, moved, rfl⟩, ?_⟩
    cases way <;> rfl

def NativeWrapper.sent (request : SwapRequest) : Conversion → Word
  | .wrap => amount request
  | .unwrap => .zero

theorem NativeWrapper.directCall_eq_ok_iff {wrapper : NativeWrapper} :
    wrapper.directCall request data = .ok direct ↔
      ∃ conversion, wrapper.accept request data = .ok conversion ∧
        direct = (wrapper.conversionCall conversion (amount request)).direct wrapper.wrappedNative
          (sent request conversion) := by
  simp only [directCall, Outcome.bind_eq_ok, Outcome.pure_eq_ok, calldata_eq_ok, Except.ok.injEq]
  constructor
  · rintro ⟨conversion, accepted, _, rfl, rfl⟩
    exact ⟨conversion, accepted, by cases conversion <;> rfl⟩
  · rintro ⟨conversion, accepted, rfl⟩
    exact ⟨conversion, accepted, _, rfl, by cases conversion <;> rfl⟩

namespace Exchange

/-- The contract that an exchange names as the recipient of a direct call, if it names one. -/
def beneficiary? : Exchange → Option Address
  | converter _ => none
  | pairRouter e => some e.augustus
  | pegModule e => some e.augustus
  | nativeWrapper _ => none

theorem exists_executorCall {exchange : Exchange}
    (h : exchange.directCall request data = .ok direct) (recipient : Address) :
    ∃ call, exchange.executorCall request recipient data = .ok call ∧
      call.target = direct.target ∧
      ((∀ other, exchange.beneficiary? = some other → recipient = other) →
        call.calldata = direct.calldata) := by
  cases exchange with
  | converter e =>
    rw [directCall] at h
    obtain ⟨hop, network, accepted, long, known, rfl⟩ := Converter.directCall_eq_ok_iff.1 h
    have called : e.executorCall request recipient data = .ok _ :=
      Converter.executorCall_eq_ok_iff.2 ⟨hop, network, accepted, long, known, rfl⟩
    exact ⟨_, called, rfl, fun _ => rfl⟩
  | pairRouter e =>
    rw [directCall] at h
    obtain ⟨hop, path, target, accepted, found, known, rfl⟩ := PairRouter.directCall_eq_ok_iff.1 h
    have called : e.executorCall request recipient data = .ok _ :=
      PairRouter.executorCall_eq_ok_iff.2 ⟨hop, path, target, accepted, found, known, rfl⟩
    refine ⟨_, called, rfl, fun same => ?_⟩
    rw [same e.augustus rfl]
    rfl
  | pegModule e =>
    rw [directCall] at h
    obtain ⟨hop, way, amount, target, accepted, chosen, moved, known, rfl⟩ :=
      PegModule.directCall_eq_ok_iff.1 h
    have called : e.executorCall request recipient data = .ok _ := PegModule.executorCall_eq_ok_iff.2
      ⟨hop, way, amount, target, accepted, chosen, moved, known, rfl⟩
    refine ⟨_, called, rfl, fun same => ?_⟩
    rw [same e.augustus rfl]
    rfl
  | nativeWrapper e =>
    rw [directCall] at h
    obtain ⟨conversion, accepted, rfl⟩ := NativeWrapper.directCall_eq_ok_iff.1 h
    have called : e.executorCall request recipient data = .ok _ :=
      NativeWrapper.executorCall_eq_ok_iff.2 ⟨conversion, accepted, rfl⟩
    exact ⟨_, called, rfl, fun _ => rfl⟩

theorem exists_directCall {exchange : Exchange} {recipient : Address} {call : ExecutorCall}
    (h : exchange.executorCall request recipient data = .ok call) :
    ∃ direct, exchange.directCall request data = .ok direct := by
  cases exchange with
  | converter e =>
    rw [executorCall] at h
    obtain ⟨hop, network, accepted, long, known, rfl⟩ := Converter.executorCall_eq_ok_iff.1 h
    exact ⟨_, Converter.directCall_eq_ok_iff.2 ⟨hop, network, accepted, long, known, rfl⟩⟩
  | pairRouter e =>
    rw [executorCall] at h
    obtain ⟨hop, path, target, accepted, found, known, rfl⟩ :=
      PairRouter.executorCall_eq_ok_iff.1 h
    exact ⟨_, PairRouter.directCall_eq_ok_iff.2 ⟨hop, path, target, accepted, found, known, rfl⟩⟩
  | pegModule e =>
    rw [executorCall] at h
    obtain ⟨hop, way, amount, target, accepted, chosen, moved, known, rfl⟩ :=
      PegModule.executorCall_eq_ok_iff.1 h
    exact ⟨_, PegModule.directCall_eq_ok_iff.2
      ⟨hop, way, amount, target, accepted, chosen, moved, known, rfl⟩⟩
  | nativeWrapper e =>
    rw [executorCall] at h
    obtain ⟨conversion, accepted, rfl⟩ := NativeWrapper.executorCall_eq_ok_iff.1 h
    exact ⟨_, NativeWrapper.directCall_eq_ok_iff.2 ⟨conversion, accepted, rfl⟩⟩

/-- The two calls of a request, where `augustus` is the contract that calls directly. -/
structure CallsAgree (exchange : Exchange) (augustus : Address) (request : SwapRequest)
    (data : Json) : Prop where
  succeed : ∀ recipient, (∃ direct, exchange.directCall request data = .ok direct) ↔
    ∃ call, exchange.executorCall request recipient data = .ok call
  unsupported : ∀ recipient name side,
    exchange.directCall request data = .error (.unsupportedSide name side) ↔
      exchange.executorCall request recipient data = .error (.unsupportedSide name side)
  target : ∀ recipient direct call, exchange.directCall request data = .ok direct →
    exchange.executorCall request recipient data = .ok call → call.target = direct.target
  calldata : ∀ direct call, exchange.directCall request data = .ok direct →
    exchange.executorCall request augustus data = .ok call → call.calldata = direct.calldata

theorem beneficiary?_ofNetwork {network : Network} {exchange : Exchange} {other : Address}
    (built : exchange ∈ ofNetwork network) (named : exchange.beneficiary? = some other) :
    network.augustus = other := by
  simp only [ofNetwork, List.mem_cons, List.not_mem_nil, or_false] at built
  rcases built with rfl | rfl | rfl | rfl
  · cases named
  · exact Option.some.inj named
  · exact Option.some.inj named
  · cases named

/-- The direct call of an exchange of a chain agrees with its call for an executor. -/
theorem directCall_agrees {network : Network} {exchange : Exchange}
    (built : exchange ∈ ofNetwork network) (request : SwapRequest) (data : Json) :
    exchange.CallsAgree network.augustus request data where
  succeed recipient := by
    constructor
    · rintro ⟨direct, made⟩
      obtain ⟨call, called, _⟩ := exists_executorCall made recipient
      exact ⟨call, called⟩
    · rintro ⟨call, called⟩
      exact exists_directCall called
  unsupported recipient name side := by
    rw [(screens_directCall exchange request data).eq_unsupported_iff,
      (screens_executorCall exchange request recipient data).eq_unsupported_iff]
  target recipient direct call made called := by
    obtain ⟨_, again, target, _⟩ := exists_executorCall made recipient
    cases called.symm.trans again
    exact target
  calldata direct call made called := by
    obtain ⟨_, again, _, calldata⟩ := exists_executorCall made network.augustus
    cases called.symm.trans again
    exact calldata fun _ named => beneficiary?_ofNetwork built named

/-- A swap of the native token over the router, where its checks come in another order. -/
theorem directCall_agrees_router :
    let network : Network := ⟨1, "chain", .repeated 0xEE, .repeated 0xC0, .repeated 0xA1,
      .repeated 0xA2, .empty, .empty, AddressBook.empty.insert PairRouter.key (.repeated 0x22)⟩
    let exchange := pairRouter (.ofNetwork network)
    let request : SwapRequest := ⟨.repeated 0xEE, .repeated 0x11, .one, .one, .sell⟩
    exchange ∈ ofNetwork network ∧ ∃ direct call,
      exchange.directCall request .null = .ok direct ∧
      exchange.executorCall request network.augustus .null = .ok call ∧
      call.target = direct.target ∧ call.calldata = direct.calldata := by
  intro network exchange request
  have built : exchange ∈ ofNetwork network := by simp [exchange, ofNetwork]
  have agree := directCall_agrees built request .null
  have routed : (PairRouter.ofNetwork network).routerAddress ⟨none, []⟩ = .ok (.repeated 0x22) :=
    addressOr_eq_ok_iff.2 (by cbv)
  have made : ∃ direct, exchange.directCall request .null = .ok direct :=
    ⟨_, PairRouter.directCall_eq_ok_iff.2 ⟨⟨none, []⟩, _, _, rfl, rfl, routed, rfl⟩⟩
  obtain ⟨direct, made⟩ := made
  obtain ⟨call, called⟩ := (agree.succeed network.augustus).1 ⟨direct, made⟩
  exact ⟨built, direct, call, made, called, agree.target _ _ _ made called, agree.calldata _ _ made called⟩

end Exchange
end SwapPlan
