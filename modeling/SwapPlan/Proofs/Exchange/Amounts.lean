import SwapPlan.Proofs.Exchange.Spending
/-!
# Calls for other amounts

What becomes of the call of an exchange when its request has other amounts: the calldata keeps its
length and all bytes outside of the words of the amounts, and nothing else of the call changes
(`Exchange.sameButAmounts`).
-/
set_option autoImplicit false

namespace SwapPlan

def Positions.amounts (p : Positions) : List Nat :=
  (p.fromAmount.toList ++ p.toAmount.toList).map UInt16.toNat

def SwapRequest.withAmounts (request : SwapRequest) (srcAmount destAmount : Word) : SwapRequest :=
  { request with
    srcAmount := srcAmount
    destAmount := destAmount }

/-- Two calls that differ in their amounts only: in the calldata, and there inside the words at the
positions of the amounts, which are the same in both. -/
structure ExecutorCall.SameButAmounts (call other : ExecutorCall) : Prop where
  alike : other = { call with calldata := other.calldata }
  differ : ∃ positions, call.layout.positions call.calldata = .ok positions ∧
    other.layout.positions other.calldata = .ok positions ∧
    call.calldata.AgreeOutside positions.amounts Word.size other.calldata

theorem ExecutorCall.SameButAmounts.of_positions {call other : ExecutorCall} {p : Positions}
    (alike : other = { call with calldata := other.calldata })
    (fixed : call.calldata.length < 2 ^ 256 → call.layout.positions call.calldata = .ok p)
    (refixed : other.calldata.length < 2 ^ 256 → other.layout.positions other.calldata = .ok p)
    (agree : call.calldata.AgreeOutside p.amounts Word.size other.calldata)
    (short : call.calldata.length < 2 ^ 256) : call.SameButAmounts other :=
  ⟨alike, p, fixed short, refixed (agree.length ▸ short), agree⟩

theorem Function.agree_amount {f : Function} {arguments changed : List AbiValue} {old : Word}
    (typed : (Slots.components f.inputTypes).Describe arguments) (index : Nat) (offset : UInt16)
    (new : Word) (value : arguments[index]? = some (.uint old))
    (replaced : changed = arguments.set index (.uint new))
    (place : selectorLength + AbiType.headSizes (f.inputTypes.take index) = offset.toNat) :
    (f.selector ++ AbiValue.encode arguments).AgreeOutside [offset.toNat] Word.size
      (f.selector ++ AbiValue.encode changed) := by
  obtain ⟨room, overwritten⟩ :=
    overwrite_amount typed index offset new value replaced place
  rw [← new.length_bytes] at room ⊢
  rw [overwritten]
  exact Bytes.agreeOutside_overwrite room

theorem Converter.sameButAmounts {converter : Converter} {request : SwapRequest}
    {srcAmount destAmount : Word} {recipient : Address} {data : Json} {call other : ExecutorCall}
    (h : converter.executorCall request recipient data = .ok call)
    (k : converter.executorCall (request.withAmounts srcAmount destAmount) recipient data =
      .ok other)
    (short : call.calldata.length < 2 ^ 256) : call.SameButAmounts other := by
  obtain ⟨hop, network, accepted, long, known, rfl⟩ := executorCall_eq_ok_iff.1 h
  obtain ⟨_, _, again, _, found, rfl⟩ := executorCall_eq_ok_iff.1 k
  cases accepted.symm.trans again
  cases known.symm.trans found
  refine .of_positions rfl (positions_conversionCall long) (positions_conversionCall long) ?_ short
  have spent := Function.agree_amount (describe_arguments request hop) 1 36 srcAmount
    rfl rfl rfl
  exact spent.mono (by decide)

theorem PairRouter.agree_amounts {request : SwapRequest} {srcAmount destAmount : Word}
    {path : List Address} {recipient : Address} :
    ((function request.side).selector ++
        AbiValue.encode (arguments request path recipient)).AgreeOutside [4, 36] Word.size
      ((function request.side).selector ++
        AbiValue.encode (arguments (request.withAmounts srcAmount destAmount) path recipient)) := by
  -- The amounts change one after the other.
  have first := describe_arguments request path recipient
  have second := describe_arguments (request.withAmounts srcAmount request.destAmount) path recipient
  obtain ⟨srcToken, destToken, spent, gained, side⟩ := request
  cases side with
  | sell =>
    have fixed := Function.agree_amount first 0 4 srcAmount rfl rfl rfl
    have bound := Function.agree_amount second 1 36 destAmount rfl rfl rfl
    exact (fixed.mono (by decide)).trans (bound.mono (by decide))
  | buy =>
    have bound := Function.agree_amount first 1 36 srcAmount rfl rfl rfl
    have fixed := Function.agree_amount second 0 4 destAmount rfl rfl rfl
    exact (bound.mono (by decide)).trans (fixed.mono (by decide))

theorem PairRouter.sameButAmounts {router : PairRouter} {request : SwapRequest}
    {srcAmount destAmount : Word} {recipient : Address} {data : Json} {call other : ExecutorCall}
    (h : router.executorCall request recipient data = .ok call)
    (k : router.executorCall (request.withAmounts srcAmount destAmount) recipient data = .ok other)
    (short : call.calldata.length < 2 ^ 256) : call.SameButAmounts other := by
  obtain ⟨hop, path, target, accepted, found, known, rfl⟩ := executorCall_eq_ok_iff.1 h
  obtain ⟨_, _, _, again, refound, reknown, rfl⟩ := executorCall_eq_ok_iff.1 k
  cases accepted.symm.trans again
  cases found.symm.trans refound
  cases known.symm.trans reknown
  have long := two_le_of_path found
  refine .of_positions rfl (positions_swap long)
    (@positions_swap (request.withAmounts srcAmount destAmount) path recipient long) ?_ short
  refine Bytes.AgreeOutside.mono agree_amounts ?_
  cases request.side <;> decide

theorem PegModule.sameButAmounts {peg : PegModule} {request : SwapRequest}
    {srcAmount destAmount : Word} {recipient : Address} {data : Json} {call other : ExecutorCall}
    (h : peg.executorCall request recipient data = .ok call)
    (k : peg.executorCall (request.withAmounts srcAmount destAmount) recipient data = .ok other)
    (short : call.calldata.length < 2 ^ 256) : call.SameButAmounts other := by
  obtain ⟨hop, way, moved, target, accepted, chosen, _, known, rfl⟩ := executorCall_eq_ok_iff.1 h
  obtain ⟨_, _, removed, _, again, rechosen, _, reknown, rfl⟩ := executorCall_eq_ok_iff.1 k
  cases accepted.symm.trans again
  cases chosen.symm.trans rechosen
  cases known.symm.trans reknown
  refine .of_positions rfl positions_gemCall positions_gemCall ?_ short
  have typed := describe_arguments way recipient moved
  cases way with
  | sellsGem => exact Function.agree_amount typed 1 36 _ rfl rfl rfl
  | buysGem => exact Function.agree_amount typed 1 36 _ rfl rfl rfl

namespace NativeWrapper

theorem conversionCall_sameButAmounts (wrapper : NativeWrapper) (conversion : Conversion)
    (amount other : Word) :
    (wrapper.conversionCall conversion amount).SameButAmounts
      (wrapper.conversionCall conversion other) := by
  refine ⟨rfl, conversionPositions conversion, positions_conversion conversion amount,
    positions_conversion conversion other, ?_⟩
  cases conversion with
  | wrap => exact .refl _ _ _
  | unwrap =>
    exact Function.agree_amount (f := withdraw) (.cons (AbiValue.inhabits_uint amount 256) .nil) 0 4
      other rfl rfl rfl

theorem sameButAmounts {wrapper : NativeWrapper} {request : SwapRequest}
    {srcAmount destAmount : Word} {recipient : Address} {data : Json} {call other : ExecutorCall}
    (h : wrapper.executorCall request recipient data = .ok call)
    (k : wrapper.executorCall (request.withAmounts srcAmount destAmount) recipient data =
      .ok other) :
    call.SameButAmounts other := by
  obtain ⟨conversion, accepted, rfl⟩ := executorCall_eq_ok_iff.1 h
  obtain ⟨_, again, rfl⟩ := executorCall_eq_ok_iff.1 k
  cases accepted.symm.trans again
  exact wrapper.conversionCall_sameButAmounts conversion _ _

end NativeWrapper

/-- Amounts reach the call of an exchange only as the words that its layout declares. -/
theorem Exchange.sameButAmounts {exchange : Exchange} {request : SwapRequest}
    {srcAmount destAmount : Word} {recipient : Address} {data : Json} {call other : ExecutorCall}
    (h : exchange.executorCall request recipient data = .ok call)
    (k : exchange.executorCall (request.withAmounts srcAmount destAmount) recipient data =
      .ok other)
    (short : call.calldata.length < 2 ^ 256) : call.SameButAmounts other := by
  cases exchange with
  | converter e =>
    rw [executorCall] at h k
    exact Converter.sameButAmounts h k short
  | pairRouter e =>
    rw [executorCall] at h k
    exact PairRouter.sameButAmounts h k short
  | pegModule e =>
    rw [executorCall] at h k
    exact PegModule.sameButAmounts h k short
  | nativeWrapper e =>
    rw [executorCall] at h k
    exact NativeWrapper.sameButAmounts h k

end SwapPlan
