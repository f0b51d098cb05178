import SwapPlan.Proofs.Exchange.Contracts
import SwapPlan.Proofs.Exchange.SourceTokens
import SwapPlan.Proofs.Plan.Acceptance
import SwapPlan.Proofs.Plan.Targets
/-!
# The source tokens of wrapped legs

Where a leg is wrapped, its records spend the wrapped token.  The one exception are hops over the
converter network whose path starts with the placeholder for the native token: they hand it to the
converters as it is (`Compiler.compile_wrapped_sources`).
-/
set_option autoImplicit false

namespace SwapPlan

def Hop.ConvertsFrom (hop : Hop) (token : Address) : Prop :=
  hop.exchange.toLower = Converter.key ∧
  ∃ data, readHopData Converter.key Converter.HopData.ofJson hop.data = .ok data ∧
    data.path.head? = some token

/-- An instruction that carries the flag of a wrapped leg and spends the token all the same. -/
def Instruction.SpendsUnwrapped (i : Instruction) (token : Address) : Prop :=
  i.flags.contains .needsWrap = true ∧ i.positions.NamesSource i.calldata token

theorem ExecutorCall.contains_needsWrap_reading (call : ExecutorCall) (positions : Positions)
    (edges : NativeEdges) :
    (call.reading positions edges).flags.contains .needsWrap = edges.wrap := by
  have bit : (call.reading positions edges).flags.contains .needsWrap =
      (call.reading positions edges).flags.bits.getLsbD 0 :=
    Flags.contains_single _ (show 0 < 16 by decide)
  rw [bit, reading, Flags.getLsbD_ofConditions]
  simp only [Flags.absences, List.cons_append, List.nil_append, List.any_cons, List.any_nil]
  simp (disch := decide) only [Flags.getLsbD_named]
  simp +decide

theorem HeaderLayout.namesSource_kept (layout : HeaderLayout) {p : Positions} {calldata : Bytes}
    {token : Address} :
    (layout.kept p).NamesSource calldata token ↔ p.NamesSource calldata token := by
  cases layout <;> exact Iff.rfl

theorem PairRouter.head?_ne_placeholder {network : Network} (fit : network.Fit)
    {request : SwapRequest} {hop : HopData} {path : List Address}
    (h : (ofNetwork network).path request hop = .ok path) :
    path.head? ≠ some network.nativeToken := by
  rw [(path_eq_ok_iff.1 h).2, List.head?_map]
  intro starts
  obtain ⟨token, _, wraps⟩ := Option.map_eq_some_iff.1 starts
  rw [wrapped] at wraps
  -- The native token is replaced, by another one, and any other token stays what it is.
  split at wraps
  · exact fit.placeholder wraps.symm
  · rename_i other
    exact other wraps

theorem Instruction.not_spendsUnwrapped {i : Instruction} {token : Address}
    (unflagged : i.flags.contains .needsWrap = false) : ¬i.SpendsUnwrapped token := by
  rintro ⟨flagged, _⟩
  rw [unflagged] at flagged
  cases flagged

theorem Network.not_spendsUnwrapped_depositing (network : Network) (token : Address) :
    ¬network.depositing.SpendsUnwrapped token := by
  apply Instruction.not_spendsUnwrapped
  simp only [depositing]
  decide

theorem Network.not_spendsUnwrapped_withdrawing (network : Network) (token : Address)
    (gained : Word) : ¬(network.withdrawing gained).SpendsUnwrapped token := by
  apply Instruction.not_spendsUnwrapped
  simp only [withdrawing]
  decide

namespace Compiler

variable {network : Network} {side : Side} {recipient : Address} {leg : Leg} {hop : Hop}

/-- Of the exchanges of a network only the converter network is handed the placeholder. -/
theorem Calls.namesSource_iff (fit : network.Fit) {call : ExecutorCall} {positions : Positions}
    (h : (ofNetwork network).Calls side recipient leg hop call)
    (short : call.calldata.length < 2 ^ 256)
    (resolved : call.layout.positions call.calldata = .ok positions) :
    positions.NamesSource call.calldata network.nativeToken ↔
      hop.ConvertsFrom network.nativeToken := by
  obtain ⟨exchange, found, made⟩ := h
  have registered : (Registry.ofNetwork network).find? hop.exchange = some exchange := found
  obtain ⟨mem, named⟩ := Registry.mem_of_find? registered
  rw [Exchange.namesSource_iff made short resolved, Hop.ConvertsFrom, ← named]
  simp only [Exchange.ofNetwork, List.mem_cons, List.not_mem_nil, or_false] at mem
  -- The converter network alone passes a path on; the last two exchanges have no path at all.
  rcases mem with rfl | rfl | rfl | rfl
  · rw [Exchange.firstToken?, Outcome.toOption_bind_eq_some]
    exact (and_iff_right rfl).symm
  · have other : PairRouter.key ≠ Converter.key := by decide
    refine iff_of_false ?_ fun converts => other converts.1
    intro starts
    rw [Exchange.firstToken?, Outcome.toOption_bind_eq_some] at starts
    obtain ⟨data, _, starts⟩ := starts
    obtain ⟨path, routed, head⟩ := Outcome.toOption_bind_eq_some.1 starts
    exact PairRouter.head?_ne_placeholder fit routed head
  · have other : PegModule.key ≠ Converter.key := by decide
    exact iff_of_false (by simp [Exchange.firstToken?]) fun converts => other converts.1
  · have other : NativeWrapper.key ≠ Converter.key := by decide
    exact iff_of_false (by simp [Exchange.firstToken?]) fun converts => other converts.1

/-- The hops over the converter network make their leg wrapped, if it spends the native token. -/
theorem wrapsAt_of_convertsFrom {network : Network} {leg : Leg} {hop : Hop} {token : Address}
    (mem : hop ∈ leg.hops) (converts : hop.ConvertsFrom token)
    (native : leg.srcToken = network.nativeToken) :
    (ofNetwork network).wrapsAt leg leg.srcToken = true := by
  have listed : Exchange.converter (.ofNetwork network) ∈ Exchange.ofNetwork network := by
    simp [Exchange.ofNetwork]
  have found : (ofNetwork network).registry.find? hop.exchange =
      some (.converter (.ofNetwork network)) := Registry.find?_of_mem listed converts.1
  rw [wrapsAt, Bool.and_eq_true]
  refine ⟨decide_eq_true native, List.any_eq_true.2 ⟨hop, mem, ?_⟩⟩
  rw [found]
  rfl

theorem HopReads.not_spendsUnwrapped_iff (fit : network.Fit) {layout : HeaderLayout}
    {i : Instruction} (mem : hop ∈ leg.hops) (short : i.calldata.length < 2 ^ 256)
    (h : (ofNetwork network).HopReads side recipient layout leg hop i) :
    ¬i.SpendsUnwrapped network.nativeToken ↔
      (leg.srcToken = network.nativeToken → ¬hop.ConvertsFrom network.nativeToken) := by
  obtain ⟨call, positions, called, resolved, rfl⟩ := h
  have names := called.namesSource_iff fit short resolved
  rw [← layout.namesSource_kept] at names
  have spends : (call.reading (layout.kept positions)
      ⟨(ofNetwork network).wrapsAt leg leg.srcToken, (ofNetwork network).wrapsAt leg leg.destToken⟩
      ).SpendsUnwrapped network.nativeToken ↔
        (ofNetwork network).wrapsAt leg leg.srcToken = true ∧
          hop.ConvertsFrom network.nativeToken :=
    and_congr (by rw [ExecutorCall.contains_needsWrap_reading]) names
  rw [spends]
  constructor
  · exact fun kept native converts => kept ⟨wrapsAt_of_convertsFrom mem converts native, converts⟩
  · rintro kept ⟨wraps, converts⟩
    rw [wrapsAt, Bool.and_eq_true] at wraps
    exact kept (of_decide_eq_true wraps.1) converts

/-- On a network without a fault a compiled plan hands the placeholder for the native token to an
exchange of a wrapped leg exactly if a hop over the converter network starts its path with it. -/
theorem compile_wrapped_sources {route : Route} {executor : Executor} {plan : Plan}
    (sound : network.fault? = none) (h : (ofNetwork network).compile route executor = .ok plan) :
    ∃ instructions, plan.decode = .ok instructions ∧
      ((∀ i ∈ instructions, ¬i.SpendsUnwrapped network.nativeToken) ↔
        ∀ leg ∈ route.legs, ∀ hop ∈ leg.hops, leg.srcToken = network.nativeToken →
          ¬hop.ConvertsFrom network.nativeToken) := by
  have fit := Network.fault?_eq_none_iff.1 sound
  refine exists_decode_forall_iff h (network.not_spendsUnwrapped_depositing _)
    (network.not_spendsUnwrapped_withdrawing _) fun leg _ hop mem i short reads => ?_
  exact reads.not_spendsUnwrapped_iff fit mem short

end Compiler

namespace Converter

def pathData (path : List Address) : Json :=
  .object [("path", .array (path.map fun a => .string a.text))]

theorem readHopData_pathData (path : List Address) :
    readHopData key HopData.ofJson (pathData path) = .ok ⟨path, none, none⟩ := by
  have read : Json.Reader.list Json.Reader.address (.array (path.map fun a => .string a.text)) =
      .ok path := Json.Reader.list_map fun a _ => Json.Reader.address_text a
  simp [readHopData, pathData, HopData.ofJson, HopData.shape, Json.Shape.members,
    Json.Shape.checkMembers, Json.Shape.field?, Json.Shape.missing?, Json.Field.mandatory,
    Json.Field.optional, Json.require, Json.withDefault, Json.member?, read, bind, Except.bind,
    Except.map, pure, Except.pure, List.lookup]

theorem exists_packs {request : SwapRequest} {hop : HopData} {target : Address}
    (long : 2 ≤ hop.path.length) (short : hop.path.length ≤ 2041) (flags : Flags)
    (layout : HeaderLayout) :
    ∃ r, (conversionCall request hop target).Packs flags false layout r := by
  have size := length_conversionCall request hop target
  have small : (conversionCall request hop target).calldata.length < 2 ^ 16 := by omega
  refine ExecutorCall.exists_packs
    (positions_conversionCall long (Nat.lt_trans small (by decide)))
    (layout.firstOutside?_restrict ?_) small (by decide) (Nat.two_pow_pos 8)
  simp [Positions.named, size]
  omega

end Converter

namespace Compiler

theorem calls_converter {network : Network} {recipient target : Address} {path : List Address}
    (listed : network.exchangeAddress? Converter.key = some target) (long : 2 ≤ path.length)
    (srcToken destToken : Address) :
    let hop : Hop := ⟨Converter.key, 100, .one, .one, Converter.pathData path⟩
    let request : SwapRequest := ⟨srcToken, destToken, .one, .one, .sell⟩
    (ofNetwork network).Calls .sell recipient ⟨srcToken, destToken, [.swap hop]⟩ hop
      (Converter.conversionCall request ⟨path, none, none⟩ target) := by
  intro hop request
  have mem : Exchange.converter (.ofNetwork network) ∈ Exchange.ofNetwork network := by
    simp [Exchange.ofNetwork]
  have found : (ofNetwork network).registry.find? hop.exchange =
      some (.converter (.ofNetwork network)) :=
    Registry.find?_of_mem mem (Exchange.converter (.ofNetwork network)).toLower_key
  have addressed : (Converter.ofNetwork network).networkAddress ⟨path, none, none⟩ = .ok target :=
    addressOr_eq_ok_iff.2 listed
  have accepted : Converter.accept request hop.data = .ok ⟨path, none, none⟩ :=
    Outcome.ite_else_error_eq_ok.2 ⟨rfl, Converter.readHopData_pathData path⟩
  have made : (Converter.ofNetwork network).executorCall request recipient hop.data =
      .ok (Converter.conversionCall request ⟨path, none, none⟩ target) :=
    Converter.executorCall_eq_ok_iff.2 ⟨_, _, accepted, long, addressed, rfl⟩
  exact ⟨_, found, made⟩

theorem exists_compile_converter {network : Network} {executor : Executor}
    {recipient target : Address} {path : List Address}
    (known : network.executorAddress? executor = some recipient)
    (listed : network.exchangeAddress? Converter.key = some target) (long : 2 ≤ path.length)
    (short : path.length ≤ 2041) (srcToken destToken : Address) :
    ∃ plan, (ofNetwork network).compile ⟨.sell, srcToken, destToken, .one, .one,
      [⟨srcToken, destToken, [.swap ⟨Converter.key, 100, .one, .one, Converter.pathData path⟩]⟩]⟩
        executor = .ok plan :=
  exists_compile_single known rfl (calls_converter listed long srcToken destToken) fun flags =>
    Converter.exists_packs long short flags executor.layout

theorem compile_wrapped_sources_sample :
    ∃ plan instructions, Network.sample.fault? = none ∧
      (ofNetwork .sample).compile (.sample .one) .first = .ok plan ∧
      plan.decode = .ok instructions ∧
      ∀ i ∈ instructions, ¬i.SpendsUnwrapped Network.sample.nativeToken := by
  obtain ⟨plan, compiled⟩ := exists_compile_sample .one
  have sound : Network.sample.fault? = none := by decide
  obtain ⟨instructions, decoded, spends⟩ := compile_wrapped_sources sound compiled
  refine ⟨plan, instructions, sound, compiled, decoded, spends.2 ?_⟩
  have other : PairRouter.key.toLower ≠ Converter.key := by cbv
  simp [Route.sample, Leg.hops, Step.hop?, Hop.sample, Hop.ConvertsFrom, other]

/-- A leg over the converter network is wrapped, and the path of its hop keeps the placeholder. -/
theorem exists_unwrapped_source :
    let network : Network :=
      { Network.sample with exchanges := AddressBook.empty.insert Converter.key (.repeated 0x22) }
    let hop : Hop :=
      ⟨Converter.key, 100, .one, .one, Converter.pathData [network.nativeToken, .repeated 0x11]⟩
    let leg : Leg := ⟨network.nativeToken, .repeated 0x11, [.swap hop]⟩
    network.fault? = none ∧ ∃ plan instructions,
      (ofNetwork network).compile
        ⟨.sell, network.nativeToken, .repeated 0x11, .one, .one, [leg]⟩ .first = .ok plan ∧
      plan.decode = .ok instructions ∧
      ∃ i ∈ instructions, i.SpendsUnwrapped network.nativeToken := by
  intro network hop leg
  have sound : network.fault? = none := by decide
  have listed : network.exchangeAddress? Converter.key = some (.repeated 0x22) := by cbv
  have known : network.executorAddress? .first = some (.repeated 0xE1) := by decide
  let path : List Address := [network.nativeToken, .repeated 0x11]
  have long : 2 ≤ path.length := le_refl 2
  obtain ⟨plan, compiled⟩ := exists_compile_converter known listed long (by decide)
    network.nativeToken (.repeated 0x11)
  obtain ⟨instructions, decoded, spends⟩ :=
    exists_decode_forall_iff compiled (network.not_spendsUnwrapped_depositing network.nativeToken)
      (network.not_spendsUnwrapped_withdrawing _) fun leg _ hop mem i short reads =>
        reads.not_spendsUnwrapped_iff (Network.fault?_eq_none_iff.1 sound) mem short
  refine ⟨sound, plan, instructions, compiled, decoded, ?_⟩
  have converts : hop.ConvertsFrom network.nativeToken :=
    ⟨by cbv, ⟨path, none, none⟩, Converter.readHopData_pathData path, rfl⟩
  by_contra none
  have all : ∀ i ∈ instructions, ¬i.SpendsUnwrapped network.nativeToken :=
    fun i mem spent => none ⟨i, mem, spent⟩
  exact spends.1 all leg (List.mem_singleton.2 rfl) hop (List.mem_singleton.2 rfl) rfl converts

end Compiler
end SwapPlan
