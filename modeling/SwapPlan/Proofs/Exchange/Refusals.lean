import SwapPlan.Proofs.Exchange.GemAmounts
/-!
# Why exchanges refuse

An exchange looks at the side of a request before anything else.  On a side on which it swaps, the
data of the hop may be unfit and an address may be missing, but the arguments of a call always fit
its function: no exchange fails in forming a call.
-/
set_option autoImplicit false

namespace SwapPlan

variable {α β : Type}

/-- An error about the data of the hop, or about an address that neither the data nor the chain
gives. -/
inductive ExchangeError.OfHop (key : String) : ExchangeError → Prop
  | invalid (reason : String) : OfHop key (.invalidData key reason)
  | missing (what : String) : OfHop key (.missingAddress key what)

def BlamesHop (key : String) (x : Except ExchangeError α) : Prop := ∀ e, x = .error e → e.OfHop key

namespace BlamesHop

variable {key : String} {x : Except ExchangeError α}

theorem of_ok (a : α) : BlamesHop key (.ok a : Except ExchangeError α) := by
  intro e failed
  cases failed

theorem of_eq_ok {a : α} (h : x = .ok a) : BlamesHop key x := by
  rw [h]
  exact of_ok a

theorem of_invalid (errors : ∀ e, x = .error e → ∃ reason, e = .invalidData key reason) :
    BlamesHop key x := by
  intro e failed
  obtain ⟨reason, rfl⟩ := errors e failed
  exact .invalid reason

theorem invalidData (reason : String) :
    BlamesHop key (.error (.invalidData key reason) : Except ExchangeError α) := by
  intro e failed
  cases failed
  exact .invalid reason

theorem bind {f : α → Except ExchangeError β} (first : BlamesHop key x)
    (next : ∀ a, BlamesHop key (f a)) : BlamesHop key (x >>= f) := by
  intro e failed
  rcases Outcome.bind_eq_error.1 failed with failed | ⟨a, _, failed⟩
  · exact first e failed
  · exact next a e failed

theorem ite {p : Prop} [Decidable p] {y : Except ExchangeError α} (yes : BlamesHop key x)
    (no : BlamesHop key y) : BlamesHop key (if p then x else y) := by
  split
  · exact yes
  · exact no

theorem readHopData (read : Json.Reader α) (data : Json) :
    BlamesHop key (readHopData key read data) := by
  intro e failed
  unfold SwapPlan.readHopData at failed
  dsimp only at failed
  generalize read _ = result at failed
  cases result with
  | ok a => cases failed
  | error cause =>
    cases failed
    exact .invalid _

theorem addressOr (what : String) (given configured : Option Address) :
    BlamesHop key (addressOr key what given configured) := by
  intro e failed
  unfold SwapPlan.addressOr at failed
  generalize given.or configured = found at failed
  cases found with
  | some a => cases failed
  | none =>
    cases failed
    exact .missing what

theorem encodeCall {f : Function} {arguments : List AbiValue}
    (fit : AbiValue.argumentsFit arguments f.inputTypes = true) :
    BlamesHop key (encodeCall f arguments) :=
  of_eq_ok (encodeCall_eq_ok_iff.2 ⟨fit, rfl⟩)

end BlamesHop

namespace Exchange

inductive Refuses (exchange : Exchange) (request : SwapRequest) : ExchangeError → Prop
  | side (unsupported : request.side ∉ exchange.sides) :
      Refuses exchange request (.unsupportedSide exchange.key request.side)
  | hop {e : ExchangeError} (supported : request.side ∈ exchange.sides)
      (blamed : e.OfHop exchange.key) : Refuses exchange request e

/-- A computation that succeeds only on a side on which the exchange swaps, and fails as the exchange
refuses. -/
structure Screens (exchange : Exchange) (request : SwapRequest) (x : Except ExchangeError α) :
    Prop where
  supported : ∀ a, x = .ok a → request.side ∈ exchange.sides
  refuses : ∀ e, x = .error e → exchange.Refuses request e

variable {exchange : Exchange} {request : SwapRequest}

theorem Screens.of_accept {read : Except ExchangeError α} {rest : α → Except ExchangeError β}
    (blames : BlamesHop exchange.key (read >>= rest)) :
    exchange.Screens request
      ((if exchange.sides.contains request.side then read
        else .error (.unsupportedSide exchange.key request.side)) >>= rest) := by
  by_cases supported : request.side ∈ exchange.sides
  · rw [if_pos (List.contains_iff_mem.2 supported)]
    exact ⟨fun _ _ => supported, fun e failed => .hop supported (blames e failed)⟩
  · rw [if_neg (mt List.contains_iff_mem.1 supported)]
    constructor
    · intro a made
      cases made
    · intro e failed
      cases failed
      exact .side supported

theorem Screens.eq_unsupported_iff {x : Except ExchangeError α}
    (screens : exchange.Screens request x) {name : String} {side : Side} :
    x = .error (.unsupportedSide name side) ↔
      request.side ∉ exchange.sides ∧ name = exchange.key ∧ side = request.side := by
  constructor
  · intro failed
    cases screens.refuses _ failed with
    | side unsupported => exact ⟨unsupported, rfl, rfl⟩
    | hop _ blamed => cases blamed
  · rintro ⟨unsupported, rfl, rfl⟩
    cases made : x with
    | ok a => exact absurd (screens.supported a made) unsupported
    | error e =>
      cases screens.refuses e made with
      | side => rfl
      | hop supported => exact absurd supported unsupported

theorem Screens.ne_abi {x : Except ExchangeError α} (screens : exchange.Screens request x)
    (error : AbiError) : x ≠ .error (.abi error) := by
  intro failed
  cases screens.refuses _ failed with
  | hop _ blamed => cases blamed

end Exchange

theorem Converter.blames_calldata (request : SwapRequest) (hop : HopData) :
    BlamesHop key (calldata request hop) :=
  .ite (.invalidData _) (.encodeCall (fit_arguments request hop))

theorem PairRouter.blames_path (router : PairRouter) (request : SwapRequest) (hop : HopData) :
    BlamesHop key (router.path request hop) :=
  .ite (.invalidData _) (.of_ok _)

namespace PegModule

theorem blames_direction (request : SwapRequest) (hop : HopData) :
    BlamesHop key (direction request hop) :=
  .ite (.of_ok _) (.ite (.of_ok _) (.invalidData _))

theorem blames_gemAmount (request : SwapRequest) (hop : HopData) (way : Direction) :
    BlamesHop key (gemAmount request hop way) := by
  unfold gemAmount
  split
  · exact .of_ok _
  · exact .of_ok _
  · exact .of_invalid fun _ => invalid_of_gemForDaiOut
  · exact .of_invalid fun _ => invalid_of_gemForDaiIn

theorem blames_call (request : SwapRequest) (hop : HopData) (recipient : Address) :
    BlamesHop key (call request hop recipient) :=
  .bind (blames_direction request hop) fun way =>
    .bind (blames_gemAmount request hop way) fun amount =>
      .bind (.encodeCall (fit_arguments way recipient amount)) fun _ => .of_ok _

end PegModule

theorem NativeWrapper.blames_conversion (wrapper : NativeWrapper) (request : SwapRequest) :
    BlamesHop key (wrapper.conversion request) :=
  .ite (.of_ok _) (.ite (.of_ok _) (.invalidData _))

namespace Exchange

theorem screens_executorCall (exchange : Exchange) (request : SwapRequest) (recipient : Address)
    (data : Json) : exchange.Screens request (exchange.executorCall request recipient data) := by
  cases exchange with
  | converter e =>
    refine Screens.of_accept (.bind (.readHopData _ _) fun hop => ?_)
    exact .bind (Converter.blames_calldata request hop) fun _ =>
      .bind (.addressOr _ _ _) fun _ => .of_ok _
  | pairRouter e =>
    refine Screens.of_accept (.bind (.readHopData _ _) fun hop => ?_)
    exact .bind (e.blames_path request hop) fun path =>
      .bind (.encodeCall (PairRouter.fit_arguments request path recipient)) fun _ =>
        .bind (.addressOr _ _ _) fun _ => .of_ok _
  | pegModule e =>
    refine Screens.of_accept (.bind (.readHopData _ _) fun hop => ?_)
    exact .bind (PegModule.blames_call request hop recipient) fun _ =>
      .bind (.addressOr _ _ _) fun _ => .of_ok _
  | nativeWrapper e =>
    refine Screens.of_accept (.bind (.bind (.readHopData _ _) fun _ => ?_) fun conversion => ?_)
    · exact e.blames_conversion request
    · exact .of_eq_ok (e.convert_eq_ok conversion (NativeWrapper.amount request))

theorem screens_directCall (exchange : Exchange) (request : SwapRequest) (data : Json) :
    exchange.Screens request (exchange.directCall request data) := by
  cases exchange with
  | converter e =>
    refine Screens.of_accept (.bind (.readHopData _ _) fun hop => ?_)
    exact .bind (.addressOr _ _ _) fun _ =>
      .bind (Converter.blames_calldata request hop) fun _ => .of_ok _
  | pairRouter e =>
    refine Screens.of_accept (.bind (.readHopData _ _) fun hop => ?_)
    exact .bind (.addressOr _ _ _) fun _ => .bind (e.blames_path request hop) fun path =>
      .bind (.encodeCall (PairRouter.fit_arguments request path e.augustus)) fun _ => .of_ok _
  | pegModule e =>
    refine Screens.of_accept (.bind (.readHopData _ _) fun hop => ?_)
    exact .bind (.addressOr _ _ _) fun _ =>
      .bind (PegModule.blames_call request hop e.augustus) fun _ => .of_ok _
  | nativeWrapper e =>
    refine Screens.of_accept (.bind (.bind (.readHopData _ _) fun _ => ?_) fun conversion => ?_)
    · exact e.blames_conversion request
    · exact .bind (.of_eq_ok (NativeWrapper.calldata_eq_ok conversion _)) fun _ => .of_ok _

end Exchange
end SwapPlan
