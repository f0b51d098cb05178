import SwapPlan.Network
import SwapPlan.Proofs.Exchange.Spending
import SwapPlan.Proofs.Outcome
/-!
# The contracts of networks and exchanges

A network without a fault has no zero address among the contracts that the compiler calls
(`Network.fault?_eq_none_iff`).  It does not promise that the addresses of exchanges are not zero,
nor that they do not depend on the order in which they are listed.

An exchange calls the contract that the data of a hop gives, or otherwise its own on the chain
(`Exchange.contract_of_executorCall`), which for all but the wrapper is the address that the network
has under the name of the exchange (`Exchange.default?_of_find?`).
-/
set_option autoImplicit false

namespace SwapPlan.Network

variable {network : Network}

/-- The compiler may call the contracts of the network. -/
structure Fit (network : Network) : Prop where
  wrappedNative : network.wrappedNative ≠ .zero
  augustus : network.augustus ≠ .zero
  tokenTransferProxy : network.tokenTransferProxy ≠ .zero
  executors : ∀ executor, network.executorAddress? executor ≠ some .zero
  placeholder : network.nativeToken ≠ network.wrappedNative

theorem find?_requiredContracts_eq_none_iff :
    network.requiredContracts.find? (·.2 = .zero) = none ↔
      network.wrappedNative ≠ .zero ∧ network.augustus ≠ .zero ∧
      network.tokenTransferProxy ≠ .zero := by
  simp [requiredContracts]

theorem find?_executors_eq_none_iff :
    Executor.all.find? (network.executorAddress? · = some .zero) = none ↔
      ∀ executor, network.executorAddress? executor ≠ some .zero := by
  rw [List.find?_eq_none]
  constructor
  · intro absent executor zero
    refine absent executor ?_ (by simpa using zero)
    cases executor <;> decide
  · intro absent executor _ zero
    exact absent executor (by simpa using zero)

theorem fault?_eq_none_iff : network.fault? = none ↔ network.Fit := by
  rw [fault?]
  constructor
  · intro sound
    split at sound
    · cases sound
    · rename_i contracts
      split at sound
      · cases sound
      · rename_i executors
        obtain ⟨wrappedNative, augustus, proxy⟩ := find?_requiredContracts_eq_none_iff.1 contracts
        refine ⟨wrappedNative, augustus, proxy, find?_executors_eq_none_iff.1 executors, ?_⟩
        intro same
        rw [if_pos same] at sound
        cases sound
  · rintro ⟨wrappedNative, augustus, proxy, executors, placeholder⟩
    rw [find?_requiredContracts_eq_none_iff.2 ⟨wrappedNative, augustus, proxy⟩,
      find?_executors_eq_none_iff.2 executors]
    exact if_neg placeholder

end SwapPlan.Network

namespace SwapPlan

theorem addressOr_eq_ok_iff {exchange what : String} {given configured : Option Address}
    {a : Address} : addressOr exchange what given configured = .ok a ↔
      given.or configured = some a := by
  rw [addressOr]
  cases given.or configured <;> simp

namespace Exchange

def given? : Exchange → Json → Option Address
  | converter _, data =>
    (readHopData Converter.key Converter.HopData.ofJson data).toOption.bind (·.network)
  | pairRouter _, data =>
    (readHopData PairRouter.key PairRouter.HopData.ofJson data).toOption.bind (·.router)
  | pegModule _, data =>
    (readHopData PegModule.key PegModule.HopData.ofJson data).toOption.bind (·.psm)
  | nativeWrapper _, _ => none

/-- The contract that an exchange calls where the data of a hop gives none. -/
def default? : Exchange → Option Address
  | converter e => e.network
  | pairRouter e => e.router
  | pegModule e => e.psm
  | nativeWrapper e => some e.wrappedNative

/-- A call goes to the contract that the data gives, or otherwise to that of the chain. -/
theorem contract_of_executorCall {exchange : Exchange} {request : SwapRequest}
    {recipient : Address} {data : Json} {call : ExecutorCall}
    (h : exchange.executorCall request recipient data = .ok call) :
    (exchange.given? data).or exchange.default? = some call.target := by
  cases exchange with
  | converter e =>
    rw [executorCall] at h
    obtain ⟨hop, _, accepted, _, known, rfl⟩ := Converter.executorCall_eq_ok_iff.1 h
    have read := Converter.readHopData_of_accept accepted
    rw [given?, read]
    exact addressOr_eq_ok_iff.1 known
  | pairRouter e =>
    rw [executorCall] at h
    obtain ⟨hop, _, _, accepted, _, known, rfl⟩ := PairRouter.executorCall_eq_ok_iff.1 h
    have read := PairRouter.readHopData_of_accept accepted
    rw [given?, read]
    exact addressOr_eq_ok_iff.1 known
  | pegModule e =>
    rw [executorCall] at h
    obtain ⟨hop, _, _, _, accepted, _, _, known, rfl⟩ := PegModule.executorCall_eq_ok_iff.1 h
    have read := PegModule.readHopData_of_accept accepted
    rw [given?, read]
    exact addressOr_eq_ok_iff.1 known
  | nativeWrapper e =>
    rw [executorCall] at h
    obtain ⟨_, _, rfl⟩ := NativeWrapper.executorCall_eq_ok_iff.1 h
    rfl

theorem toLower_key (exchange : Exchange) : exchange.key.toLower = exchange.key := by
  cases exchange <;> cbv

end Exchange

namespace Registry

theorem exchanges_ofNetwork (network : Network) :
    (ofNetwork network).exchanges = Exchange.ofNetwork network := by
  simp [ofNetwork, Exchange.ofNetwork, register, place, Exchange.key, Converter.key, PairRouter.key,
    PegModule.key, NativeWrapper.key]

theorem find?_of_mem {network : Network} {exchange : Exchange} {name : String}
    (mem : exchange ∈ Exchange.ofNetwork network) (named : name.toLower = exchange.key) :
    (ofNetwork network).find? name = some exchange := by
  rw [find?, exchanges_ofNetwork, named]
  simp only [Exchange.ofNetwork, List.mem_cons, List.not_mem_nil, or_false] at mem
  rcases mem with rfl | rfl | rfl | rfl <;>
    simp [Exchange.ofNetwork, Exchange.key, Converter.key, PairRouter.key, PegModule.key,
      NativeWrapper.key]

theorem mem_of_find? {network : Network} {name : String} {exchange : Exchange}
    (h : (ofNetwork network).find? name = some exchange) :
    exchange ∈ Exchange.ofNetwork network ∧ exchange.key = name.toLower := by
  rw [find?, exchanges_ofNetwork] at h
  exact ⟨List.mem_of_find?_eq_some h, by simpa using List.find?_some h⟩

end Registry

theorem Network.exchangeAddress?_toLower (network : Network) {name other : String}
    (same : name.toLower = other.toLower) :
    network.exchangeAddress? name = network.exchangeAddress? other := by
  rw [exchangeAddress?, exchangeAddress?, same]

/-- The contract of an exchange on a chain is the address that the network has under its name, but for
the wrapper. -/
theorem Exchange.default?_of_find? {network : Network} {name : String} {exchange : Exchange}
    (h : (Registry.ofNetwork network).find? name = some exchange) :
    exchange.default? =
      if name.toLower = NativeWrapper.key then some network.wrappedNative
      else network.exchangeAddress? name := by
  obtain ⟨mem, named⟩ := Registry.mem_of_find? h
  have same : exchange.key.toLower = name.toLower := exchange.toLower_key.trans named
  rw [← named, ← network.exchangeAddress?_toLower same]
  simp only [ofNetwork, List.mem_cons, List.not_mem_nil, or_false] at mem
  rcases mem with rfl | rfl | rfl | rfl <;>
    simp [key, Converter.key, PairRouter.key, PegModule.key, NativeWrapper.key, default?,
      Converter.ofNetwork, PairRouter.ofNetwork, PegModule.ofNetwork, NativeWrapper.ofNetwork]

end SwapPlan
