import SwapPlan.Proofs.Exchange.Spending
/-!
# Amounts of gem

The amount of gem of a swap is exact over the natural numbers: the quotients that are taken one
after the other are one quotient, which fits a word whenever the data is not refused
(`PegModule.gemForDaiIn_eq_ok_iff`, `PegModule.gemForDaiOut_eq_ok_iff`).  Rounded down, gem never
costs more DAI than is paid (`PegModule.cost_le`), but it does not always pay out the DAI that is
asked for; `PegModule.payout_div_add` says by how much it falls short.
-/
set_option autoImplicit false

namespace SwapPlan

theorem Word.toNat_div (w : Word) (n : Nat) : (w.div n).toNat = w.toNat / n := rfl

theorem Word.lt_of_toNat_eq {w : Word} {n : Nat} (h : w.toNat = n) : n < 2 ^ 256 := h ▸ w.toNat_lt

theorem Word.ofNat?_eq_none_iff {n : Nat} : ofNat? n = none ↔ 2 ^ 256 ≤ n := by
  rw [ofNat?, dite_eq_right_iff]
  constructor
  · exact fun fits => Nat.not_lt.1 fun small => Option.some_ne_none _ (fits small)
  · exact fun large small => absurd small (Nat.not_lt.2 large)

namespace PegModule

/-- Units of DAI for a unit of the gem, which does not have more decimals than DAI. -/
def HopData.scale (hop : HopData) : Nat := 10 ^ (18 - hop.gemDecimals.toNat)

/-- What a swap of DAI for an amount of gem costs: the DAI at par, and the toll on it. -/
def HopData.cost (hop : HopData) (gem : Nat) : Nat :=
  gem * hop.scale + gem * hop.scale * hop.tollAmount.toNat / 10 ^ 18

/-- What a swap of an amount of gem for DAI pays out: the DAI at par, less the toll on it. -/
def HopData.payout (hop : HopData) (gem : Nat) : Nat :=
  gem * hop.scale - gem * hop.scale * hop.tollAmount.toNat / 10 ^ 18

def Refused {α : Type} (result : Except ExchangeError α) : Prop :=
  ∃ reason, result = .error (.invalidData key reason)

def Moves (way : Direction) (amount : Word) (calldata : Bytes) : Prop :=
  (function way).selector <+: calldata ∧ calldata.slice? 36 Word.size = some amount.bytes

variable {hop : HopData} {request : SwapRequest} {recipient : Address} {way : Direction}

theorem HopData.scale_pos (hop : HopData) : 0 < hop.scale := Nat.pow_pos (by decide)

theorem HopData.scale_le (hop : HopData) : hop.scale ≤ 10 ^ 18 :=
  Nat.pow_le_pow_right (by decide) (Nat.sub_le ..)

theorem fitted_eq_ok_iff {n : Nat} {reason : String} {w : Word} :
    fitted n reason = .ok w ↔ w.toNat = n := by
  rw [fitted, ← Word.ofNat?_eq_some_iff]
  cases Word.ofNat? n <;> simp [invalid]

theorem fitted_eq_error_iff {n : Nat} {reason : String} {e : ExchangeError} :
    fitted n reason = .error e ↔ 2 ^ 256 ≤ n ∧ e = .invalidData key reason := by
  rw [fitted, ← Word.ofNat?_eq_none_iff]
  cases Word.ofNat? n <;> simp [invalid, eq_comm]

theorem conversionFactor_eq_ok_iff {n : Nat} :
    conversionFactor hop = .ok n ↔ hop.gemDecimals.toNat ≤ 18 ∧ n = hop.scale := by
  rw [conversionFactor, invalid, Outcome.ite_error_eq_ok, Nat.not_lt, Except.ok.injEq]
  exact and_congr_right fun _ => eq_comm

theorem conversionFactor_eq_error {e : ExchangeError} (h : conversionFactor hop = .error e) :
    e = .invalidData key
      ("gem decimals " ++ toString hop.gemDecimals.toNat ++ " exceed DAI decimals") := by
  rw [conversionFactor] at h
  split at h <;> cases h
  rfl

/-! ## Quotients -/

theorem divisor_lt (toll : Nat) (hop : HopData) : (10 ^ 18 - toll) * hop.scale < 2 ^ 256 := by
  have small := Nat.mul_le_mul (Nat.sub_le (10 ^ 18) toll) hop.scale_le
  omega

theorem gemForDaiOut_eq_ok_iff {dai g : Word} :
    gemForDaiOut dai hop = .ok g ↔
      dai.toNat * 10 ^ 18 < 2 ^ 256 ∧ hop.tollAmount.toNat < 10 ^ 18 ∧ hop.gemDecimals.toNat ≤ 18 ∧
      g.toNat = dai.toNat * 10 ^ 18 / ((10 ^ 18 - hop.tollAmount.toNat) * hop.scale) := by
  simp only [gemForDaiOut, invalid, Outcome.bind_eq_ok, Outcome.ite_error_eq_ok, Outcome.pure_eq_ok,
    fitted_eq_ok_iff, conversionFactor_eq_ok_iff, Nat.not_le]
  constructor
  · rintro ⟨scaled, product, below, _, ⟨decimals, rfl⟩, divisor, divides, rfl⟩
    refine ⟨Word.lt_of_toNat_eq product, below, decimals, ?_⟩
    rw [Word.toNat_div, product, divides]
    rfl
  · rintro ⟨fits, below, decimals, quotient⟩
    refine ⟨⟨_, fits⟩, rfl, below, _, ⟨decimals, rfl⟩, ⟨_, divisor_lt _ hop⟩, rfl, ?_⟩
    exact Word.ext quotient.symm

theorem gemForDaiIn_eq_ok_iff {dai g : Word} :
    gemForDaiIn dai hop = .ok g ↔
      dai.toNat * 10 ^ 18 < 2 ^ 256 ∧ 10 ^ 18 + hop.tollAmount.toNat < 2 ^ 256 ∧
      hop.gemDecimals.toNat ≤ 18 ∧
      g.toNat = dai.toNat * 10 ^ 18 / ((10 ^ 18 + hop.tollAmount.toNat) * hop.scale) := by
  simp only [gemForDaiIn, Outcome.bind_eq_ok, Outcome.pure_eq_ok, fitted_eq_ok_iff,
    conversionFactor_eq_ok_iff, ← Nat.div_div_eq_div_mul]
  constructor
  · rintro ⟨scaled, product, gross, sum, _, ⟨decimals, rfl⟩, rfl⟩
    refine ⟨Word.lt_of_toNat_eq product, Word.lt_of_toNat_eq sum, decimals, ?_⟩
    rw [Word.toNat_div, Word.toNat_div, product, sum]
    rfl
  · rintro ⟨fits, room, decimals, quotient⟩
    refine ⟨⟨_, fits⟩, rfl, ⟨_, room⟩, rfl, _, ⟨decimals, rfl⟩, ?_⟩
    exact Word.ext quotient.symm

theorem gemForDaiOut_eq_error {dai : Word} {e : ExchangeError}
    (h : gemForDaiOut dai hop = .error e) :
    ∃ reason, e = .invalidData key reason ∧ reason ≠ "toll denominator overflows" := by
  rw [gemForDaiOut, Outcome.bind_eq_error] at h
  obtain h | ⟨scaled, _, h⟩ := h
  · exact ⟨_, (fitted_eq_error_iff.1 h).2, by decide⟩
  split at h
  · cases h
    exact ⟨_, rfl, by decide⟩
  · rw [Outcome.bind_eq_error] at h
    obtain h | ⟨factor, known, h⟩ := h
    · refine ⟨_, conversionFactor_eq_error h, fun same => ?_⟩
      have first := congrArg (fun s => s.toList.head?) same
      simp [String.toList_append] at first
    · obtain ⟨_, rfl⟩ := conversionFactor_eq_ok_iff.1 known
      rw [Outcome.bind_eq_error] at h
      obtain h | ⟨divisor, _, h⟩ := h
      · exact absurd (fitted_eq_error_iff.1 h).1 (Nat.not_le.2 (divisor_lt _ hop))
      · cases h

theorem invalid_of_gemForDaiOut {dai : Word} {e : ExchangeError}
    (h : gemForDaiOut dai hop = .error e) : ∃ reason, e = .invalidData key reason :=
  (gemForDaiOut_eq_error h).imp fun _ => And.left

theorem invalid_of_gemForDaiIn {dai : Word} {e : ExchangeError}
    (h : gemForDaiIn dai hop = .error e) : ∃ reason, e = .invalidData key reason := by
  rw [gemForDaiIn, Outcome.bind_eq_error] at h
  obtain h | ⟨scaled, _, h⟩ := h
  · exact ⟨_, (fitted_eq_error_iff.1 h).2⟩
  rw [Outcome.bind_eq_error] at h
  obtain h | ⟨gross, _, h⟩ := h
  · exact ⟨_, (fitted_eq_error_iff.1 h).2⟩
  rw [Outcome.bind_eq_error] at h
  obtain h | ⟨factor, _, h⟩ := h
  · exact ⟨_, conversionFactor_eq_error h⟩
  · cases h

theorem exists_ok {α : Type} {result : Except ExchangeError α}
    (errors : ∀ e, result = .error e → ∃ reason, e = .invalidData key reason)
    (accepted : ¬Refused result) : ∃ a, result = .ok a := by
  cases result with
  | error e =>
    obtain ⟨reason, rfl⟩ := errors e rfl
    exact absurd ⟨reason, rfl⟩ accepted
  | ok a => exact ⟨a, rfl⟩

/-- A quotient that is given under a condition is refused otherwise, if no other error can happen:
it fits a word if the dividend does. -/
theorem refused_iff {result : Except ExchangeError Word} {n d : Nat} {p : Prop}
    (errors : ∀ e, result = .error e → ∃ reason, e = .invalidData key reason)
    (quotient : ∀ g : Word, result = .ok g ↔ n < 2 ^ 256 ∧ p ∧ g.toNat = n / d) :
    Refused result ↔ ¬(n < 2 ^ 256 ∧ p) := by
  constructor
  · rintro ⟨reason, refused⟩ ⟨fits, holds⟩
    have small : n / d < 2 ^ 256 := Nat.lt_of_le_of_lt (Nat.div_le_self n d) fits
    have given := (quotient ⟨n / d, small⟩).2 ⟨fits, holds, rfl⟩
    rw [refused] at given
    cases given
  · intro bad
    by_contra accepted
    obtain ⟨g, given⟩ := exists_ok errors accepted
    obtain ⟨fits, holds, _⟩ := (quotient g).1 given
    exact bad ⟨fits, holds⟩

theorem refused_gemForDaiOut_iff {dai : Word} :
    Refused (gemForDaiOut dai hop) ↔
      2 ^ 256 ≤ dai.toNat * 10 ^ 18 ∨ 10 ^ 18 ≤ hop.tollAmount.toNat ∨
        18 < hop.gemDecimals.toNat := by
  rw [refused_iff (fun _ => invalid_of_gemForDaiOut)
    fun g => gemForDaiOut_eq_ok_iff.trans (and_congr_right' and_assoc.symm)]
  omega

theorem refused_gemForDaiIn_iff {dai : Word} :
    Refused (gemForDaiIn dai hop) ↔
      2 ^ 256 ≤ dai.toNat * 10 ^ 18 ∨ 2 ^ 256 ≤ 10 ^ 18 + hop.tollAmount.toNat ∨
        18 < hop.gemDecimals.toNat := by
  rw [refused_iff (fun _ => invalid_of_gemForDaiIn)
    fun g => gemForDaiIn_eq_ok_iff.trans (and_congr_right' and_assoc.symm)]
  omega

/-! ## Rounding -/

theorem isGreatest_gem (hop : HopData) (dai : Nat) :
    IsGreatest {g | g * hop.scale * (10 ^ 18 + hop.tollAmount.toNat) ≤ dai * 10 ^ 18}
      (dai * 10 ^ 18 / ((10 ^ 18 + hop.tollAmount.toNat) * hop.scale)) := by
  have positive : 0 < (10 ^ 18 + hop.tollAmount.toNat) * hop.scale :=
    Nat.mul_pos (by omega) hop.scale_pos
  have same (g : Nat) : g * hop.scale * (10 ^ 18 + hop.tollAmount.toNat) =
      g * ((10 ^ 18 + hop.tollAmount.toNat) * hop.scale) := by
    rw [Nat.mul_assoc, Nat.mul_comm hop.scale]
  simp only [same]
  exact ⟨Nat.div_mul_le_self _ _, fun g fits => (Nat.le_div_iff_mul_le positive).2 fits⟩

/-- Gem that is paid for in full, toll included, costs no more than was paid. -/
theorem cost_le {gem dai : Nat}
    (paid : gem * hop.scale * (10 ^ 18 + hop.tollAmount.toNat) ≤ dai * 10 ^ 18) :
    hop.cost gem ≤ dai := by
  refine Nat.le_of_mul_le_mul_right ?_ (by decide : 0 < 10 ^ 18)
  calc
    hop.cost gem * 10 ^ 18
      = gem * hop.scale * 10 ^ 18 +
          gem * hop.scale * hop.tollAmount.toNat / 10 ^ 18 * 10 ^ 18 := Nat.add_mul ..
    _ ≤ gem * hop.scale * 10 ^ 18 + gem * hop.scale * hop.tollAmount.toNat :=
      Nat.add_le_add_left (Nat.div_mul_le_self ..) _
    _ = gem * hop.scale * (10 ^ 18 + hop.tollAmount.toNat) := (Nat.mul_add ..).symm
    _ ≤ dai * 10 ^ 18 := paid

theorem net_add_toll (below : hop.tollAmount.toNat < 10 ^ 18) (gem : Nat) :
    gem * ((10 ^ 18 - hop.tollAmount.toNat) * hop.scale) +
        gem * hop.scale * hop.tollAmount.toNat =
      gem * hop.scale * 10 ^ 18 := by
  rw [Nat.mul_comm _ hop.scale, ← Nat.mul_assoc, ← Nat.mul_add, Nat.sub_add_cancel below.le]

theorem toll_le (below : hop.tollAmount.toNat < 10 ^ 18) (gem : Nat) :
    gem * hop.scale * hop.tollAmount.toNat / 10 ^ 18 ≤ gem * hop.scale :=
  Nat.div_le_of_le_mul <| by
    rw [Nat.mul_comm (10 ^ 18)]
    exact Nat.mul_le_mul_left _ below.le

theorem le_payout (below : hop.tollAmount.toNat < 10 ^ 18) {gem dai : Nat}
    (leaves : dai * 10 ^ 18 ≤ gem * ((10 ^ 18 - hop.tollAmount.toNat) * hop.scale)) :
    dai ≤ hop.payout gem := by
  have par := net_add_toll below gem
  rw [HopData.payout]
  omega

/-- Gem that leaves less than is asked for by a rest pays out as much less as there is DAI in the
rest, rounded down. -/
theorem payout_add (below : hop.tollAmount.toNat < 10 ^ 18) {gem dai rest : Nat}
    (leaves : gem * ((10 ^ 18 - hop.tollAmount.toNat) * hop.scale) + rest = dai * 10 ^ 18) :
    hop.payout gem + rest / 10 ^ 18 = dai := by
  have par := net_add_toll below gem
  have toll := toll_le below gem
  rw [HopData.payout]
  omega

theorem payout_div_add (below : hop.tollAmount.toNat < 10 ^ 18) (dai : Nat) :
    hop.payout (dai * 10 ^ 18 / ((10 ^ 18 - hop.tollAmount.toNat) * hop.scale)) +
      dai * 10 ^ 18 % ((10 ^ 18 - hop.tollAmount.toNat) * hop.scale) / 10 ^ 18 = dai :=
  payout_add below (Nat.div_add_mod' ..)

theorem le_payout_div_succ (below : hop.tollAmount.toNat < 10 ^ 18) (dai : Nat) :
    dai ≤ hop.payout (dai * 10 ^ 18 / ((10 ^ 18 - hop.tollAmount.toNat) * hop.scale) + 1) := by
  have positive := Nat.mul_pos (Nat.sub_pos_of_lt below) hop.scale_pos
  apply le_payout below
  rw [Nat.mul_comm (_ + 1)]
  exact (Nat.lt_mul_div_succ (dai * 10 ^ 18) positive).le

/-! ## Calls -/

theorem moves_gemCall (way : Direction) (amount : Word) (recipient target : Address) :
    Moves way amount (gemCall way amount recipient target).calldata := by
  have typed := describe_arguments way recipient amount
  have place : Function.selectorLength +
      AbiValue.writtenAt [.address recipient, .uint amount] 1 [] = 36 := by
    rw [typed.writtenAt_word rfl rfl]
    cases way <;> rfl
  refine ⟨List.prefix_append .., ?_⟩
  rw [← place]
  exact Function.slice?_call typed ⟨1, []⟩ rfl rfl

theorem call_eq (paired : direction request hop = .ok way) (recipient target : Address) :
    call request hop recipient = (gemAmount request hop way).map fun amount =>
      (way, (gemCall way amount recipient target).calldata) := by
  rw [call, paired, Outcome.ok_bind]
  cases gemAmount request hop way with
  | error e => rfl
  | ok amount =>
    rw [Outcome.ok_bind, encodeCall_eq_ok_iff.2 ⟨fit_arguments way recipient amount, rfl⟩]
    rfl

theorem exists_call (paired : direction request hop = .ok way) {amount : Word}
    (moved : gemAmount request hop way = .ok amount) (recipient : Address) :
    ∃ calldata, call request hop recipient = .ok (way, calldata) ∧ Moves way amount calldata := by
  rw [call_eq paired recipient recipient, moved]
  exact ⟨_, rfl, moves_gemCall way amount recipient recipient⟩

theorem call_eq_error_iff (paired : direction request hop = .ok way) {e : ExchangeError} :
    call request hop recipient = .error e ↔ gemAmount request hop way = .error e := by
  rw [call_eq paired recipient recipient]
  cases gemAmount request hop way <;> simp [Except.map]

theorem refused_call_iff (paired : direction request hop = .ok way) :
    Refused (call request hop recipient) ↔ Refused (gemAmount request hop way) := by
  simp only [Refused, call_eq_error_iff paired]

theorem direction_sellsGem (spends : request.srcToken = hop.gem)
    (gains : request.destToken = hop.dai) : direction request hop = .ok .sellsGem :=
  if_pos ⟨spends, gains⟩

theorem direction_buysGem (spends : request.srcToken = hop.dai)
    (gains : request.destToken = hop.gem) (apart : hop.gem ≠ hop.dai) :
    direction request hop = .ok .buysGem := by
  rw [direction, if_neg, if_pos ⟨spends, gains⟩]
  rintro ⟨same, _⟩
  exact apart (same.symm.trans spends)

/-- The amount of gem of a swap of the pair.  It is the amount that the request fixes if that is one
of gem.  For DAI spent it is as much as the DAI pays for with the toll, and for DAI asked for it is
the quotient rounded down; these are refused exactly where a number needs more than 256 bits, where
the toll leaves nothing, or where the gem has more decimals than DAI. -/
theorem call_exact (request : SwapRequest) (hop : HopData) (recipient : Address) :
    (request.srcToken = hop.gem → request.destToken = hop.dai → request.side = .sell →
      ∃ calldata, call request hop recipient = .ok (.sellsGem, calldata) ∧
        Moves .sellsGem request.srcAmount calldata) ∧
    (request.srcToken = hop.dai → request.destToken = hop.gem → hop.gem ≠ hop.dai →
      request.side = .buy →
      ∃ calldata, call request hop recipient = .ok (.buysGem, calldata) ∧
        Moves .buysGem request.destAmount calldata) ∧
    (request.srcToken = hop.dai → request.destToken = hop.gem → hop.gem ≠ hop.dai →
      request.side = .sell →
      (Refused (call request hop recipient) ↔
        2 ^ 256 ≤ request.srcAmount.toNat * 10 ^ 18 ∨
          2 ^ 256 ≤ 10 ^ 18 + hop.tollAmount.toNat ∨ 18 < hop.gemDecimals.toNat) ∧
      (¬Refused (call request hop recipient) → ∃ calldata amount,
        call request hop recipient = .ok (.buysGem, calldata) ∧ Moves .buysGem amount calldata ∧
        0 < hop.scale ∧
        IsGreatest {g | g * hop.scale * (10 ^ 18 + hop.tollAmount.toNat) ≤
          request.srcAmount.toNat * 10 ^ 18} amount.toNat ∧
        hop.cost amount.toNat ≤ request.srcAmount.toNat)) ∧
    (request.srcToken = hop.gem → request.destToken = hop.dai → request.side = .buy →
      (Refused (call request hop recipient) ↔
        2 ^ 256 ≤ request.destAmount.toNat * 10 ^ 18 ∨ 10 ^ 18 ≤ hop.tollAmount.toNat ∨
          18 < hop.gemDecimals.toNat) ∧
      call request hop recipient ≠ .error (.invalidData key "toll denominator overflows") ∧
      (¬Refused (call request hop recipient) → ∃ calldata amount,
        call request hop recipient = .ok (.sellsGem, calldata) ∧ Moves .sellsGem amount calldata ∧
        hop.tollAmount.toNat < 10 ^ 18 ∧
        0 < (10 ^ 18 - hop.tollAmount.toNat) * hop.scale ∧
        (10 ^ 18 - hop.tollAmount.toNat) * hop.scale < 2 ^ 256 ∧
        amount.toNat = request.destAmount.toNat * 10 ^ 18 /
          ((10 ^ 18 - hop.tollAmount.toNat) * hop.scale))) := by
  refine ⟨fun spends gains sells => ?_, fun spends gains apart buys => ?_,
    fun spends gains apart sells => ?_, fun spends gains buys => ?_⟩
  · exact exists_call (direction_sellsGem spends gains) (by simp only [gemAmount, sells]) recipient
  · have paired := direction_buysGem spends gains apart
    exact exists_call paired (by simp only [gemAmount, buys]) recipient
  · have paired := direction_buysGem spends gains apart
    have derived : gemAmount request hop .buysGem = gemForDaiIn request.srcAmount hop := by
      simp only [gemAmount, sells]
    rw [refused_call_iff paired, derived]
    refine ⟨refused_gemForDaiIn_iff, fun accepted => ?_⟩
    obtain ⟨amount, given⟩ := exists_ok (fun _ => invalid_of_gemForDaiIn) accepted
    obtain ⟨calldata, called, moves⟩ := exists_call paired (derived.trans given) recipient
    obtain ⟨_, _, _, quotient⟩ := gemForDaiIn_eq_ok_iff.1 given
    have greatest := isGreatest_gem hop request.srcAmount.toNat
    rw [← quotient] at greatest
    exact ⟨calldata, amount, called, moves, hop.scale_pos, greatest, cost_le greatest.1⟩
  · have paired := direction_sellsGem spends gains
    have derived : gemAmount request hop .sellsGem = gemForDaiOut request.destAmount hop := by
      simp only [gemAmount, buys]
    rw [refused_call_iff paired, derived]
    refine ⟨refused_gemForDaiOut_iff, ?_, fun accepted => ?_⟩
    · rw [Ne, call_eq_error_iff paired, derived]
      intro overflows
      obtain ⟨reason, same, other⟩ := gemForDaiOut_eq_error overflows
      cases same
      exact other rfl
    · obtain ⟨amount, given⟩ := exists_ok (fun _ => invalid_of_gemForDaiOut) accepted
      obtain ⟨calldata, called, moves⟩ := exists_call paired (derived.trans given) recipient
      obtain ⟨_, below, _, quotient⟩ := gemForDaiOut_eq_ok_iff.1 given
      exact ⟨calldata, amount, called, moves, below,
        Nat.mul_pos (Nat.sub_pos_of_lt below) hop.scale_pos, divisor_lt _ hop, quotient⟩

def thousandth (gemJoin gem dai : Address) : HopData :=
  ⟨none, gemJoin, gem, dai, some (.truncate (10 ^ 15)), 6⟩

/-- One DAI pays for 999000 units of the gem and the toll. -/
theorem call_exact_thousandth :
    let hop := thousandth (.repeated 3) (.repeated 1) (.repeated 2)
    let request : SwapRequest := ⟨.repeated 2, .repeated 1, .truncate (10 ^ 18), .zero, .sell⟩
    hop.gem ≠ hop.dai ∧ ∃ calldata amount,
      call request hop (.repeated 6) = .ok (.buysGem, calldata) ∧
        Moves .buysGem amount calldata ∧ amount.toNat = 999000 ∧
        hop.cost amount.toNat ≤ 10 ^ 18 ∧
        Refused (call request { hop with gemDecimals := 19 } (.repeated 6)) := by
  intro hop request
  have apart : hop.gem ≠ hop.dai := by decide
  obtain ⟨_, _, sells, _⟩ := call_exact request hop (.repeated 6)
  obtain ⟨refused, derived⟩ := sells rfl rfl apart rfl
  obtain ⟨calldata, amount, called, moves, _, greatest, cost⟩ :=
    derived (refused.not.2 (by decide))
  obtain ⟨_, _, sells, _⟩ := call_exact request { hop with gemDecimals := 19 } (.repeated 6)
  have many := (sells rfl rfl apart rfl).1.2 (.inr (.inr (by decide)))
  refine ⟨apart, calldata, amount, called, moves, ?_, cost, many⟩
  exact (greatest.unique (isGreatest_gem hop request.srcAmount.toNat)).trans (by decide +kernel)

/-! ## Exact amounts of DAI -/

def Forms (peg : PegModule) (request : SwapRequest) (data : Json) (calldata : Bytes) : Prop :=
  (∃ recipient formed, peg.executorCall request recipient data = .ok formed ∧
    formed.calldata = calldata) ∨
  ∃ formed, peg.directCall request data = .ok formed ∧ formed.calldata = calldata

variable {peg : PegModule} {data : Json} {calldata : Bytes}

theorem Forms.exists_call (formed : peg.Forms request data calldata)
    (read : accept request data = .ok hop) :
    ∃ way recipient, call request hop recipient = .ok (way, calldata) := by
  obtain ⟨recipient, formed, ok, rfl⟩ | ⟨formed, ok, rfl⟩ := formed
  · simp only [executorCall, read, Outcome.ok_bind, Outcome.bind_eq_ok, Outcome.pure_eq_ok] at ok
    obtain ⟨⟨way, calldata⟩, called, _, _, rfl⟩ := ok
    exact ⟨way, recipient, called⟩
  · simp only [directCall, read, Outcome.ok_bind, Outcome.bind_eq_ok, Outcome.pure_eq_ok] at ok
    obtain ⟨_, _, ⟨way, calldata⟩, called, rfl⟩ := ok
    exact ⟨way, peg.augustus, called⟩

/-- For DAI asked for, the gem of the call pays out what is asked for, but for the DAI in what the
quotient leaves over, rounded down: nothing is missing exactly if that is less than one unit.  One
unit of gem more would always do. -/
theorem payout_of_buy (read : accept request data = .ok hop) (buys : request.side = .buy)
    (spends : request.srcToken = hop.gem) (gains : request.destToken = hop.dai)
    (formed : peg.Forms request data calldata) :
    ∃ amount : Word, Moves .sellsGem amount calldata ∧
      hop.payout amount.toNat + request.destAmount.toNat * 10 ^ 18 %
          ((10 ^ 18 - hop.tollAmount.toNat) * hop.scale) / 10 ^ 18 = request.destAmount.toNat ∧
      (request.destAmount.toNat ≤ hop.payout amount.toNat ↔
        request.destAmount.toNat * 10 ^ 18 %
          ((10 ^ 18 - hop.tollAmount.toNat) * hop.scale) < 10 ^ 18) ∧
      request.destAmount.toNat ≤ hop.payout (amount.toNat + 1) := by
  have paired := direction_sellsGem spends gains
  obtain ⟨way, recipient, called⟩ := formed.exists_call read
  have derived : gemAmount request hop .sellsGem = gemForDaiOut request.destAmount hop := by
    simp only [gemAmount, buys]
  rw [call_eq paired recipient recipient, derived, Outcome.map_eq_ok] at called
  obtain ⟨amount, given, same⟩ := called
  cases same
  obtain ⟨_, below, _, quotient⟩ := gemForDaiOut_eq_ok_iff.1 given
  have missing := payout_div_add below request.destAmount.toNat
  have enough := le_payout_div_succ below request.destAmount.toNat
  rw [← quotient] at missing enough
  exact ⟨amount, moves_gemCall .sellsGem amount recipient recipient, missing, by omega, enough⟩

def thousandthData (gemJoin gem dai : Address) : Json :=
  .object [("gemJoinAddress", .string gemJoin.text), ("gem", .string gem.text),
    ("dai", .string dai.text), ("toll", .string "1000000000000000")]

theorem readHopData_thousandthData (gemJoin gem dai : Address) :
    readHopData key HopData.ofJson (thousandthData gemJoin gem dai) =
      .ok (thousandth gemJoin gem dai) := by
  have toll : Word.ofEitherNotation? "1000000000000000" = some (.truncate (10 ^ 15)) := by
    decide +kernel
  simp [readHopData, thousandthData, thousandth, HopData.ofJson, HopData.shape, Json.Shape.members,
    Json.Shape.checkMembers, Json.Shape.field?, Json.Shape.missing?, Json.Field.mandatory,
    Json.Field.optional, Json.require, Json.withDefault, Json.member?, Json.Reader.address_text,
    Json.Reader.nullable, Json.Reader.eitherAmount, toll, bind, Except.bind,
    Except.map, pure, Except.pure, List.lookup, defaultGemDecimals]

def daiRequest (gem dai : Address) (amount : Word) : SwapRequest :=
  ⟨gem, dai, .zero, amount, .buy⟩

theorem accept_thousandthData (gemJoin gem dai : Address) (asked : Word) :
    accept (daiRequest gem dai asked) (thousandthData gemJoin gem dai) =
      .ok (thousandth gemJoin gem dai) :=
  readHopData_thousandthData gemJoin gem dai

theorem executorCall_thousandth {gemJoin gem dai target augustus : Address} {asked amount : Word}
    (given : gemForDaiOut asked (thousandth gemJoin gem dai) = .ok amount) (recipient : Address) :
    PegModule.executorCall ⟨some target, augustus⟩ (daiRequest gem dai asked) recipient
        (thousandthData gemJoin gem dai) = .ok (gemCall .sellsGem amount recipient target) :=
  executorCall_eq_ok_iff.2 ⟨thousandth gemJoin gem dai, .sellsGem, amount, target,
    accept_thousandthData gemJoin gem dai asked, direction_sellsGem rfl rfl, given, rfl, rfl⟩

/-- A thousand gem for 999 DAI. -/
theorem payout_of_buy_exact :
    let peg : PegModule := ⟨some (.repeated 4), .repeated 5⟩
    let hop := thousandth (.repeated 3) (.repeated 1) (.repeated 2)
    let data := thousandthData (.repeated 3) (.repeated 1) (.repeated 2)
    let request := daiRequest (.repeated 1) (.repeated 2) (.truncate (999 * 10 ^ 18))
    accept request data = .ok hop ∧ request.side = .buy ∧ request.srcToken = hop.gem ∧
      request.destToken = hop.dai ∧ ∃ calldata amount, peg.Forms request data calldata ∧
        Moves .sellsGem amount calldata ∧
        request.destAmount.toNat ≤ hop.payout amount.toNat := by
  intro peg hop data request
  have read : accept request data = .ok hop := accept_thousandthData _ _ _ _
  have given : gemForDaiOut request.destAmount hop = .ok (.truncate (10 ^ 9)) :=
    gemForDaiOut_eq_ok_iff.2 (by decide +kernel)
  have formed : peg.Forms request data
      (gemCall .sellsGem (.truncate (10 ^ 9)) (.repeated 6) (.repeated 4)).calldata :=
    .inl ⟨.repeated 6, _, executorCall_thousandth given (.repeated 6), rfl⟩
  obtain ⟨amount, moves, _, enough, _⟩ := payout_of_buy read rfl rfl rfl formed
  exact ⟨read, rfl, rfl, rfl, _, amount, formed, moves, enough.2 (by decide +kernel)⟩

/-- The gem sold for one DAI is a unit too little. -/
theorem exists_short_payout :
    let peg : PegModule := ⟨some (.repeated 4), .repeated 5⟩
    let hop := thousandth (.repeated 3) (.repeated 1) (.repeated 2)
    let data := thousandthData (.repeated 3) (.repeated 1) (.repeated 2)
    let request := daiRequest (.repeated 1) (.repeated 2) (.truncate (10 ^ 18))
    accept request data = .ok hop ∧ request.side = .buy ∧ request.srcToken = hop.gem ∧
      request.destToken = hop.dai ∧ hop.tollAmount.toNat < 10 ^ 18 ∧ hop.gemDecimals.toNat ≤ 18 ∧
      ∃ calldata amount, peg.Forms request data calldata ∧ Moves .sellsGem amount calldata ∧
        amount.toNat = 1001001 ∧ hop.payout amount.toNat < request.destAmount.toNat := by
  intro peg hop data request
  have read : accept request data = .ok hop := accept_thousandthData _ _ _ _
  have given : gemForDaiOut request.destAmount hop = .ok (.truncate 1001001) :=
    gemForDaiOut_eq_ok_iff.2 (by decide +kernel)
  have formed : peg.Forms request data
      (gemCall .sellsGem (.truncate 1001001) (.repeated 6) (.repeated 4)).calldata :=
    .inl ⟨.repeated 6, _, executorCall_thousandth given (.repeated 6), rfl⟩
  exact ⟨read, rfl, rfl, rfl, by decide, by decide, _, _, formed, moves_gemCall ..,
    by decide +kernel, by decide +kernel⟩

end PegModule
end SwapPlan
