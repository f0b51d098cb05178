import SwapPlan.Exchange.Registry
import SwapPlan.Proofs.Exchange.Calls
/-!
# The calls that exchanges make

For each exchange, when it makes a call for an executor and which call that is, and what becomes of
the call when a request that sells spends another amount (`ExecutorCall.PatchesTo`): it changes at
the position of that amount, if it has one, and nowhere else.
-/
set_option autoImplicit false

namespace SwapPlan

def SwapRequest.spending (request : SwapRequest) (amount : Word) : SwapRequest :=
  { request with srcAmount := amount }

/-- A call that differs from another one in its calldata, and there only at the position of the amount
spent, if it has one: there it has the given amount. -/
structure ExecutorCall.PatchesTo (call : ExecutorCall) (amount : Word) (patched : ExecutorCall) :
    Prop where
  alike : patched = { call with calldata := patched.calldata }
  patches : call.calldata.length < 2 ^ 256 → ∀ positions offset,
    call.layout.positions call.calldata = .ok positions → positions.fromAmount = some offset →
      patched.layout.positions patched.calldata = .ok positions ∧
      offset.toNat + Word.size ≤ call.calldata.length ∧
      patched.calldata = call.calldata.overwrite offset.toNat amount.bytes

theorem ExecutorCall.PatchesTo.of_positions {call patched : ExecutorCall} {amount : Word}
    {p : Positions} {offset : UInt16}
    (alike : patched = { call with calldata := patched.calldata })
    (fixed : call.calldata.length < 2 ^ 256 → call.layout.positions call.calldata = .ok p)
    (refixed : patched.calldata.length < 2 ^ 256 →
      patched.layout.positions patched.calldata = .ok p)
    (spends : p.fromAmount = some offset)
    (overwritten : offset.toNat + Word.size ≤ call.calldata.length ∧
      patched.calldata = call.calldata.overwrite offset.toNat amount.bytes) :
    call.PatchesTo amount patched := by
  refine ⟨alike, fun short positions o resolved found => ?_⟩
  have length : patched.calldata.length = call.calldata.length := by
    rw [overwritten.2, Bytes.length_overwrite]
    rw [amount.length_bytes]
    exact overwritten.1
  rw [fixed short, Except.ok.injEq] at resolved
  subst resolved
  rw [spends, Option.some.injEq] at found
  subst found
  exact ⟨refixed (length ▸ short), overwritten⟩

theorem ExecutorCall.PatchesTo.of_absent {call patched : ExecutorCall} {amount : Word}
    {p : Positions} (alike : patched = { call with calldata := patched.calldata })
    (fixed : call.calldata.length < 2 ^ 256 → call.layout.positions call.calldata = .ok p)
    (absent : p.fromAmount = none) : call.PatchesTo amount patched := by
  refine ⟨alike, fun short positions o resolved found => ?_⟩
  rw [fixed short, Except.ok.injEq] at resolved
  subst resolved
  rw [absent] at found
  cases found

theorem Function.overwrite_word {f : Function} {arguments changed : List AbiValue}
    {old : AbiValue} (typed : (Slots.components f.inputTypes).Describe arguments) (index : Nat)
    (offset : UInt16) (new : AbiValue) (value : arguments[index]? = some old) (isWord : old.isWord = true)
    (newWord : new.isWord = true) (newSize : new.body.length = Word.size)
    (replaced : changed = arguments.set index new)
    (place : selectorLength + AbiType.headSizes (f.inputTypes.take index) = offset.toNat) :
    offset.toNat + Word.size ≤ (f.selector ++ AbiValue.encode arguments).length ∧
    f.selector ++ AbiValue.encode changed =
      (f.selector ++ AbiValue.encode arguments).overwrite offset.toNat new.body := by
  have selected : AbiValue.select arguments index [] = some old := value
  rw [← place, ← typed.writtenAt_word value isWord, replaced]
  constructor
  · obtain ⟨stands, size⟩ :=
      Bytes.slice?_eq_some_iff.1 (slice?_call typed ⟨index, []⟩ selected isWord)
    rw [← size]
    exact stands.le
  · exact call_replace typed ⟨index, []⟩ selected isWord newWord newSize

theorem Function.overwrite_amount {f : Function} {arguments changed : List AbiValue} {old : Word}
    (typed : (Slots.components f.inputTypes).Describe arguments) (index : Nat) (offset : UInt16)
    (amount : Word) (value : arguments[index]? = some (.uint old))
    (replaced : changed = arguments.set index (.uint amount))
    (place : selectorLength + AbiType.headSizes (f.inputTypes.take index) = offset.toNat) :
    offset.toNat + Word.size ≤ (f.selector ++ AbiValue.encode arguments).length ∧
    f.selector ++ AbiValue.encode changed =
      (f.selector ++ AbiValue.encode arguments).overwrite offset.toNat amount.bytes :=
  overwrite_word typed index offset (.uint amount) value rfl rfl amount.length_bytes replaced place

namespace Converter

def conversionCall (request : SwapRequest) (hop : HopData) (network : Address) :
    ExecutorCall where
  needsWrap := true
  namesRecipient := false
  namesDestToken := false
  sendsNative := false
  calldata := convert2.selector ++ AbiValue.encode (arguments request hop)
  target := network
  special := none
  layout := layout

theorem fit_arguments (request : SwapRequest) (hop : HopData) :
    AbiValue.argumentsFit (arguments request hop) convert2.inputTypes = true := by
  simp [AbiValue.argumentsFit, arguments, convert2, Function.inputTypes, AbiValue.prefixFits,
    AbiValue.fits_addressList, AbiValue.fits]

theorem calldata_eq_ok_iff {request : SwapRequest} {hop : HopData} {bytes : Bytes} :
    calldata request hop = .ok bytes ↔ 2 ≤ hop.path.length ∧
      bytes = convert2.selector ++ AbiValue.encode (arguments request hop) := by
  rw [calldata]
  split
  · simp only [reduceCtorEq, false_iff, not_and]
    omega
  · rw [encodeCall_eq_ok_iff]
    simp only [fit_arguments, true_and, iff_and_self]
    omega

theorem readHopData_of_accept {request : SwapRequest} {data : Json} {hop : HopData}
    (accepted : accept request data = .ok hop) : readHopData key HopData.ofJson data = .ok hop := by
  rw [accept, Outcome.ite_else_error_eq_ok] at accepted
  exact accepted.2

theorem executorCall_eq_ok_iff {converter : Converter} {request : SwapRequest}
    {recipient : Address} {data : Json} {call : ExecutorCall} :
    converter.executorCall request recipient data = .ok call ↔
      ∃ hop network, accept request data = .ok hop ∧ 2 ≤ hop.path.length ∧
        converter.networkAddress hop = .ok network ∧ call = conversionCall request hop network := by
  simp only [executorCall, Outcome.bind_eq_ok, Outcome.pure_eq_ok, calldata_eq_ok_iff]
  constructor
  · rintro ⟨hop, accepted, _, ⟨long, rfl⟩, network, known, rfl⟩
    exact ⟨hop, network, accepted, long, known, rfl⟩
  · rintro ⟨hop, network, accepted, long, known, rfl⟩
    exact ⟨hop, accepted, _, ⟨long, rfl⟩, network, known, rfl⟩

theorem describe_arguments (request : SwapRequest) (hop : HopData) :
    (Slots.components convert2.inputTypes).Describe (arguments request hop) :=
  .cons (AbiValue.inhabits_addressList _) <| .cons (AbiValue.inhabits_uint _ _) <|
    .cons (AbiValue.inhabits_uint _ _) <| .cons (AbiValue.inhabits_address _) <|
    .cons (AbiValue.inhabits_uint _ _) .nil

theorem length_conversionCall (request : SwapRequest) (hop : HopData) (target : Address) :
    (conversionCall request hop target).calldata.length = 196 + 32 * hop.path.length := by
  have head : AbiType.headSizes convert2.inputTypes = 160 := rfl
  have tail : AbiValue.tails (AbiValue.parts (arguments request hop)) =
      (addressList hop.path).body := List.append_nil _
  rw [conversionCall, Function.length_call (describe_arguments request hop), head, tail,
    AbiValue.length_addressList, Function.selectorLength, Word.size]
  omega

theorem positions_conversionCall {request : SwapRequest} {hop : HopData}
    (long : 2 ≤ hop.path.length)
    (short : (convert2.selector ++ AbiValue.encode (arguments request hop)).length < 2 ^ 256) :
    layout.positions (convert2.selector ++ AbiValue.encode (arguments request hop)) =
      .ok ⟨some 36, some 68, some 196, none⟩ := by
  have typed := describe_arguments request hop
  have nonempty : hop.path ≠ [] := List.ne_nil_of_length_pos (Nat.lt_of_lt_of_le Nat.two_pos long)
  apply CallLayout.positions_eq_ok_iff.2
  exact ⟨CallLayout.position?_of_word rfl typed short rfl rfl rfl,
    CallLayout.position?_of_word rfl typed short rfl rfl rfl,
    CallLayout.position?_of_first rfl typed short rfl nonempty rfl rfl, rfl⟩

theorem patchesTo_spending {converter : Converter} {request : SwapRequest} {recipient : Address}
    {data : Json} {amount : Word} {call patched : ExecutorCall}
    (h : converter.executorCall request recipient data = .ok call)
    (k : converter.executorCall (request.spending amount) recipient data = .ok patched) :
    call.PatchesTo amount patched := by
  obtain ⟨hop, network, accepted, long, known, rfl⟩ := executorCall_eq_ok_iff.1 h
  obtain ⟨_, _, again, _, found, rfl⟩ := executorCall_eq_ok_iff.1 k
  cases accepted.symm.trans again
  cases known.symm.trans found
  exact .of_positions rfl (positions_conversionCall long) (positions_conversionCall long) rfl
    (Function.overwrite_amount (describe_arguments request hop) 1 36 amount rfl rfl rfl)

end Converter

namespace PairRouter

def swapCall (request : SwapRequest) (path : List Address) (recipient target : Address) :
    ExecutorCall where
  needsWrap := true
  namesRecipient := true
  namesDestToken := true
  sendsNative := false
  calldata := (function request.side).selector ++ AbiValue.encode (arguments request path recipient)
  target := target
  special := none
  layout := layout request.side path.length

theorem fit_arguments (request : SwapRequest) (path : List Address) (recipient : Address) :
    AbiValue.argumentsFit (arguments request path recipient) (function request.side).inputTypes =
      true := by
  rw [arguments]
  cases request.side <;>
    simp [AbiValue.argumentsFit, function, swapExactIn, swapExactOut, Function.inputTypes,
      AbiValue.prefixFits, AbiValue.fits_addressList, AbiValue.fits]

theorem readHopData_of_accept {request : SwapRequest} {data : Json} {hop : HopData}
    (accepted : accept request data = .ok hop) : readHopData key HopData.ofJson data = .ok hop := by
  rw [accept, Outcome.ite_else_error_eq_ok] at accepted
  exact accepted.2

theorem executorCall_eq_ok_iff {router : PairRouter} {request : SwapRequest} {recipient : Address}
    {data : Json} {call : ExecutorCall} :
    router.executorCall request recipient data = .ok call ↔
      ∃ hop path target, accept request data = .ok hop ∧ router.path request hop = .ok path ∧
        router.routerAddress hop = .ok target ∧
        call = swapCall request path recipient target := by
  simp only [executorCall, Outcome.bind_eq_ok, Outcome.pure_eq_ok, calldata, encodeCall_eq_ok_iff,
    fit_arguments, true_and]
  constructor
  · rintro ⟨hop, accepted, path, found, _, rfl, target, known, rfl⟩
    exact ⟨hop, path, target, accepted, found, known, rfl⟩
  · rintro ⟨hop, path, target, accepted, found, known, rfl⟩
    exact ⟨hop, accepted, path, found, _, rfl, target, known, rfl⟩

def tokens (request : SwapRequest) (hop : HopData) : List Address :=
  if hop.path.isEmpty then [request.srcToken, request.destToken] else hop.path

theorem path_eq_ok_iff {router : PairRouter} {request : SwapRequest} {hop : HopData}
    {path : List Address} :
    router.path request hop = .ok path ↔
      2 ≤ (tokens request hop).length ∧ path = (tokens request hop).map router.wrapped := by
  have unfolded : router.path request hop =
      if (tokens request hop).length < 2 then
        .error (.invalidData key "router path needs at least two tokens")
      else .ok ((tokens request hop).map router.wrapped) := rfl
  rw [unfolded, Outcome.ite_error_eq_ok, Nat.not_lt, Except.ok.injEq]
  exact and_congr_right fun _ => eq_comm

theorem two_le_of_path {router : PairRouter} {request : SwapRequest} {hop : HopData}
    {path : List Address} (h : router.path request hop = .ok path) : 2 ≤ path.length := by
  obtain ⟨long, rfl⟩ := path_eq_ok_iff.1 h
  rwa [List.length_map]

theorem describe_arguments (request : SwapRequest) (path : List Address) (recipient : Address) :
    (Slots.components (function request.side).inputTypes).Describe
      (arguments request path recipient) := by
  rw [arguments]
  cases request.side <;>
    exact .cons (AbiValue.inhabits_uint _ _) <| .cons (AbiValue.inhabits_uint _ _) <|
      .cons (AbiValue.inhabits_addressList _) <| .cons (AbiValue.inhabits_address _) <|
      .cons (AbiValue.inhabits_uint _ _) .nil

theorem length_swapCall (request : SwapRequest) (path : List Address)
    (recipient target : Address) :
    (swapCall request path recipient target).calldata.length = 196 + 32 * path.length := by
  have head : AbiType.headSizes (function request.side).inputTypes = 160 := by
    cases request.side <;> rfl
  have tail : AbiValue.tails (AbiValue.parts (arguments request path recipient)) =
      (addressList path).body := by
    rw [arguments]
    cases request.side <;> exact List.append_nil _
  rw [swapCall, Function.length_call (describe_arguments request path recipient), head, tail,
    AbiValue.length_addressList, Function.selectorLength, Word.size]
  omega

def swapPositions : Side → Positions
  | .sell => ⟨some 4, some 36, some 196, none⟩
  | .buy => ⟨some 36, some 4, some 196, none⟩

theorem positions_swap {request : SwapRequest} {path : List Address} {recipient : Address}
    (long : 2 ≤ path.length)
    (short : ((function request.side).selector ++
      AbiValue.encode (arguments request path recipient)).length < 2 ^ 256) :
    (layout request.side path.length).positions ((function request.side).selector ++
        AbiValue.encode (arguments request path recipient)) =
      .ok (swapPositions request.side) := by
  have typed := describe_arguments request path recipient
  have nonempty : path ≠ [] := List.ne_nil_of_length_pos (Nat.lt_of_lt_of_le Nat.two_pos long)
  obtain ⟨srcToken, destToken, srcAmount, destAmount, side⟩ := request
  apply CallLayout.positions_eq_ok_iff.2
  cases side <;>
    exact ⟨CallLayout.position?_of_word rfl typed short rfl rfl rfl,
      CallLayout.position?_of_word rfl typed short rfl rfl rfl,
      CallLayout.position?_of_first rfl typed short rfl nonempty rfl rfl, rfl⟩

theorem positions_swapCall {request : SwapRequest} {path : List Address} {recipient : Address}
    (sells : request.side = .sell) (long : 2 ≤ path.length)
    (short : ((function request.side).selector ++
      AbiValue.encode (arguments request path recipient)).length < 2 ^ 256) :
    (layout request.side path.length).positions ((function request.side).selector ++
        AbiValue.encode (arguments request path recipient)) =
      .ok ⟨some 4, some 36, some 196, none⟩ := by
  rw [positions_swap long short, sells]
  rfl

theorem patchesTo_spending {router : PairRouter} {request : SwapRequest} {recipient : Address}
    {data : Json} {amount : Word} {call patched : ExecutorCall} (sells : request.side = .sell)
    (h : router.executorCall request recipient data = .ok call)
    (k : router.executorCall (request.spending amount) recipient data = .ok patched) :
    call.PatchesTo amount patched := by
  obtain ⟨hop, path, target, accepted, found, known, rfl⟩ := executorCall_eq_ok_iff.1 h
  obtain ⟨_, _, _, again, refound, reknown, rfl⟩ := executorCall_eq_ok_iff.1 k
  cases accepted.symm.trans again
  cases found.symm.trans refound
  cases known.symm.trans reknown
  have long := two_le_of_path found
  have typed := describe_arguments request path recipient
  refine .of_positions rfl (positions_swapCall sells long) (positions_swapCall sells long) rfl ?_
  obtain ⟨srcToken, destToken, srcAmount, destAmount, side⟩ := request
  cases sells
  exact Function.overwrite_amount typed 0 4 amount rfl rfl rfl

end PairRouter

namespace PegModule

def gemCall (direction : Direction) (amount : Word) (recipient target : Address) :
    ExecutorCall where
  needsWrap := false
  namesRecipient := true
  namesDestToken := false
  sendsNative := false
  calldata := (function direction).selector ++
    AbiValue.encode [.address recipient, .uint amount]
  target := target
  special := some specialExchange
  layout := layout direction

theorem fit_arguments (way : Direction) (recipient : Address) (amount : Word) :
    AbiValue.argumentsFit [.address recipient, .uint amount] (function way).inputTypes = true := by
  cases way <;> rfl

theorem call_eq_ok_iff {request : SwapRequest} {hop : HopData} {recipient : Address}
    {way : Direction} {bytes : Bytes} :
    call request hop recipient = .ok (way, bytes) ↔ direction request hop = .ok way ∧
      ∃ amount, gemAmount request hop way = .ok amount ∧
        bytes = (function way).selector ++ AbiValue.encode [.address recipient, .uint amount] := by
  simp only [call, Outcome.bind_eq_ok, Outcome.pure_eq_ok, encodeCall_eq_ok_iff, fit_arguments,
    true_and]
  constructor
  · rintro ⟨_, chosen, amount, moved, _, rfl, same⟩
    cases same
    exact ⟨chosen, amount, moved, rfl⟩
  · rintro ⟨chosen, amount, moved, rfl⟩
    exact ⟨way, chosen, amount, moved, _, rfl, rfl⟩

theorem readHopData_of_accept {request : SwapRequest} {data : Json} {hop : HopData}
    (accepted : accept request data = .ok hop) : readHopData key HopData.ofJson data = .ok hop := by
  rw [accept, Outcome.ite_else_error_eq_ok] at accepted
  exact accepted.2

theorem executorCall_eq_ok_iff {peg : PegModule} {request : SwapRequest} {recipient : Address}
    {data : Json} {call : ExecutorCall} :
    peg.executorCall request recipient data = .ok call ↔
      ∃ hop way amount target, accept request data = .ok hop ∧ direction request hop = .ok way ∧
        gemAmount request hop way = .ok amount ∧ peg.psmAddress hop = .ok target ∧
        call = gemCall way amount recipient target := by
  simp only [executorCall, Outcome.bind_eq_ok, Outcome.pure_eq_ok]
  constructor
  · rintro ⟨hop, accepted, ⟨way, _⟩, called, target, known, rfl⟩
    obtain ⟨chosen, amount, moved, rfl⟩ := call_eq_ok_iff.1 called
    exact ⟨hop, way, amount, target, accepted, chosen, moved, known, rfl⟩
  · rintro ⟨hop, way, amount, target, accepted, chosen, moved, known, rfl⟩
    exact ⟨hop, accepted, _, call_eq_ok_iff.2 ⟨chosen, amount, moved, rfl⟩, target, known, rfl⟩

theorem describe_arguments (way : Direction) (recipient : Address) (amount : Word) :
    (Slots.components (function way).inputTypes).Describe [.address recipient, .uint amount] := by
  cases way <;> exact .cons (AbiValue.inhabits_address _) <| .cons (AbiValue.inhabits_uint _ _) .nil

theorem length_gemCall (way : Direction) (amount : Word) (recipient target : Address) :
    (gemCall way amount recipient target).calldata.length = 68 := by
  rw [gemCall, Function.length_call (describe_arguments way recipient amount)]
  cases way <;> rfl

def gemPositions : Direction → Positions
  | .sellsGem => { Positions.none with fromAmount := some 36 }
  | .buysGem => { Positions.none with toAmount := some 36 }

theorem positions_gemCall {way : Direction} {amount : Word} {recipient : Address}
    (short : ((function way).selector ++
      AbiValue.encode [.address recipient, .uint amount]).length < 2 ^ 256) :
    (layout way).positions ((function way).selector ++
        AbiValue.encode [.address recipient, .uint amount]) = .ok (gemPositions way) := by
  have typed := describe_arguments way recipient amount
  apply CallLayout.positions_eq_ok_iff.2
  cases way with
  | sellsGem =>
    exact ⟨CallLayout.position?_of_word rfl typed short rfl rfl rfl, rfl, rfl, rfl⟩
  | buysGem =>
    exact ⟨rfl, CallLayout.position?_of_word rfl typed short rfl rfl rfl, rfl, rfl⟩

theorem patchesTo_spending {peg : PegModule} {request : SwapRequest} {recipient : Address}
    {data : Json} {amount : Word} {call patched : ExecutorCall} (sells : request.side = .sell)
    (h : peg.executorCall request recipient data = .ok call)
    (k : peg.executorCall (request.spending amount) recipient data = .ok patched) :
    call.PatchesTo amount patched := by
  obtain ⟨hop, way, moved, target, accepted, chosen, moves, known, rfl⟩ :=
    executorCall_eq_ok_iff.1 h
  obtain ⟨_, _, removed, _, again, rechosen, removes, reknown, rfl⟩ := executorCall_eq_ok_iff.1 k
  cases accepted.symm.trans again
  cases chosen.symm.trans rechosen
  cases known.symm.trans reknown
  cases way with
  | buysGem => exact .of_absent rfl positions_gemCall rfl
  | sellsGem =>
    obtain ⟨srcToken, destToken, srcAmount, destAmount, side⟩ := request
    cases sells
    cases moves
    cases removes
    exact .of_positions rfl positions_gemCall positions_gemCall rfl
      (Function.overwrite_amount (describe_arguments .sellsGem recipient _) 1 36 _ rfl rfl rfl)

end PegModule

namespace NativeWrapper

theorem executorCall_eq_ok_iff {wrapper : NativeWrapper} {request : SwapRequest}
    {recipient : Address} {data : Json} {call : ExecutorCall} :
    wrapper.executorCall request recipient data = .ok call ↔
      ∃ conversion, wrapper.accept request data = .ok conversion ∧
        call = wrapper.conversionCall conversion (amount request) := by
  simp only [executorCall, Outcome.bind_eq_ok, convert_eq_ok, Except.ok.injEq, @eq_comm _ call]

theorem patchesTo_spending {wrapper : NativeWrapper} {request : SwapRequest} {recipient : Address}
    {data : Json} {spent : Word} {call patched : ExecutorCall} (sells : request.side = .sell)
    (h : wrapper.executorCall request recipient data = .ok call)
    (k : wrapper.executorCall (request.spending spent) recipient data = .ok patched) :
    call.PatchesTo spent patched := by
  obtain ⟨conversion, accepted, rfl⟩ := executorCall_eq_ok_iff.1 h
  obtain ⟨_, again, rfl⟩ := executorCall_eq_ok_iff.1 k
  cases accepted.symm.trans again
  cases conversion with
  | wrap => exact .of_absent rfl (fun _ => positions_conversion .wrap (amount request)) rfl
  | unwrap =>
    have moved : amount (request.spending spent) = spent := by
      rw [amount, SwapRequest.spending, sells]
    rw [moved]
    refine .of_positions rfl (fun _ => positions_conversion .unwrap _)
      (fun _ => positions_conversion .unwrap _) rfl ?_
    exact Function.overwrite_amount (f := withdraw)
      (.cons (AbiValue.inhabits_uint (amount request) 256) .nil) 0 4 spent rfl rfl rfl

end NativeWrapper

namespace Exchange

/-- Whether the calls of an exchange need the wrapped form of the native token. -/
def wrapsNative : Exchange → Bool
  | converter _ => true
  | pairRouter _ => true
  | pegModule _ => false
  | nativeWrapper _ => false

theorem needsWrap_of_executorCall {exchange : Exchange} {request : SwapRequest}
    {recipient : Address} {data : Json} {call : ExecutorCall}
    (h : exchange.executorCall request recipient data = .ok call) :
    call.needsWrap = exchange.wrapsNative := by
  cases exchange with
  | converter e =>
    rw [executorCall] at h
    obtain ⟨_, _, _, _, _, rfl⟩ := Converter.executorCall_eq_ok_iff.1 h
    rfl
  | pairRouter e =>
    rw [executorCall] at h
    obtain ⟨_, _, _, _, _, _, rfl⟩ := PairRouter.executorCall_eq_ok_iff.1 h
    rfl
  | pegModule e =>
    rw [executorCall] at h
    obtain ⟨_, _, _, _, _, _, _, _, rfl⟩ := PegModule.executorCall_eq_ok_iff.1 h
    rfl
  | nativeWrapper e =>
    rw [executorCall] at h
    obtain ⟨_, _, rfl⟩ := NativeWrapper.executorCall_eq_ok_iff.1 h
    rfl

/-- An exchange that sells puts the amount spent where its call says, and nowhere else. -/
theorem patchesTo_spending {exchange : Exchange} {request : SwapRequest} {recipient : Address}
    {data : Json} {amount : Word} {call patched : ExecutorCall} (sells : request.side = .sell)
    (h : exchange.executorCall request recipient data = .ok call)
    (k : exchange.executorCall (request.spending amount) recipient data = .ok patched) :
    call.PatchesTo amount patched := by
  cases exchange with
  | converter e =>
    rw [executorCall] at h k
    exact Converter.patchesTo_spending h k
  | pairRouter e =>
    rw [executorCall] at h k
    exact PairRouter.patchesTo_spending sells h k
  | pegModule e =>
    rw [executorCall] at h k
    exact PegModule.patchesTo_spending sells h k
  | nativeWrapper e =>
    rw [executorCall] at h k
    exact NativeWrapper.patchesTo_spending sells h k

end Exchange
end SwapPlan
