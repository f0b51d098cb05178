import Mathlib
import SwapPlan.Abi.Cache
import SwapPlan.Exchange.Registry
/-!
# What caches answer

A cache that started empty holds the functions of the signatures that it was asked for, of those
that can be parsed, and holds each once (`SignatureCache.Remembers`).  So it answers as an empty
cache does, whatever it was asked before (`SignatureCache.transparent`).
-/
set_option autoImplicit false

namespace SwapPlan

namespace SignatureCache

inductive Query
  | function (signature : String)
  | call (signature : String) (arguments : List AbiValue)

def Query.signature : Query → String
  | function signature => signature
  | call signature _ => signature

inductive Answer
  | function (f : Function)
  | calldata (bytes : Bytes)

def answer (cache : SignatureCache) : Query → Except AbiError Answer × SignatureCache
  | .function signature =>
    let (found, cache) := cache.function signature
    (found.map .function, cache)
  | .call signature arguments =>
    let (formed, cache) := cache.call signature arguments
    (formed.map .calldata, cache)

def run (cache : SignatureCache) : List Query → List (Except AbiError Answer) × SignatureCache
  | [] => ([], cache)
  | query :: rest =>
    let (first, cache) := cache.answer query
    let (others, cache) := cache.run rest
    (first :: others, cache)

def Query.direct : Query → Except AbiError Answer
  | function signature => (Signature.parse signature).map .function
  | call signature arguments =>
    ((Signature.parse signature).bind (·.call arguments)).map .calldata

/-- A cache holds the functions of the signatures seen, of those that can be parsed, and holds each
once. -/
structure Remembers (cache : SignatureCache) (seen : Finset String) : Prop where
  distinct : (cache.entries.map Prod.fst).Nodup
  mem_iff : ∀ signature f, (signature, f) ∈ cache.entries ↔
    signature ∈ seen ∧ Signature.parse signature = .ok f

variable {cache : SignatureCache} {seen : Finset String} {signature : String} {f : Function}
  {e : AbiError}

theorem remembers_empty : empty.Remembers ∅ := ⟨.nil, by simp [empty]⟩

namespace Remembers

theorem lookup_eq_some_iff (h : cache.Remembers seen) :
    cache.entries.lookup signature = some f ↔
      signature ∈ seen ∧ Signature.parse signature = .ok f := by
  have known {g : Function} (found : cache.entries.lookup signature = some g) :
      signature ∈ seen ∧ Signature.parse signature = .ok g := by
    obtain ⟨front, back, same, _⟩ := List.lookup_eq_some_iff.1 found
    exact (h.mem_iff signature g).1 (same ▸ List.mem_append_right _ (List.mem_cons_self ..))
  refine ⟨known, fun listed => ?_⟩
  cases found : cache.entries.lookup signature with
  | none =>
    have absent := List.lookup_eq_none_iff.1 found _ ((h.mem_iff signature f).2 listed)
    simp at absent
  | some g =>
    -- Parsing gives one function, so the one found is the one listed.
    have same := (known found).2.symm.trans listed.2
    cases same
    rfl

theorem function_of_error (h : cache.Remembers seen)
    (failed : Signature.parse signature = .error e) :
    cache.function signature = (.error e, cache) := by
  have absent : cache.entries.lookup signature = none :=
    Option.eq_none_iff_forall_ne_some.2 fun f found => by
      cases failed.symm.trans (h.lookup_eq_some_iff.1 found).2
  rw [SignatureCache.function, absent]
  simp only [failed]

theorem function_of_seen (h : cache.Remembers seen) (known : signature ∈ seen)
    (parsed : Signature.parse signature = .ok f) :
    cache.function signature = (.ok f, cache) := by
  rw [SignatureCache.function, h.lookup_eq_some_iff.2 ⟨known, parsed⟩]

theorem function_of_fresh (h : cache.Remembers seen) (fresh : signature ∉ seen)
    (parsed : Signature.parse signature = .ok f) :
    cache.function signature = (.ok f, ⟨(signature, f) :: cache.entries⟩) := by
  have absent : cache.entries.lookup signature = none :=
    Option.eq_none_iff_forall_ne_some.2 fun f found => fresh (h.lookup_eq_some_iff.1 found).1
  rw [SignatureCache.function, absent]
  simp only [parsed]

theorem fst_function (h : cache.Remembers seen) (signature : String) :
    (cache.function signature).1 = Signature.parse signature := by
  cases parsed : Signature.parse signature with
  | error e => rw [h.function_of_error parsed]
  | ok f =>
    by_cases known : signature ∈ seen
    · rw [h.function_of_seen known parsed]
    · rw [h.function_of_fresh known parsed]

theorem fst_call (h : cache.Remembers seen) (signature : String) (arguments : List AbiValue) :
    (cache.call signature arguments).1 =
      (Signature.parse signature).bind (·.call arguments) :=
  congrArg (fun found : Except AbiError Function => found.bind (·.call arguments))
    (h.fst_function signature)

theorem insert_of_error (h : cache.Remembers seen) (failed : Signature.parse signature = .error e) :
    cache.Remembers (insert signature seen) := by
  refine ⟨h.distinct, fun other f => ?_⟩
  rw [h.mem_iff, Finset.mem_insert]
  constructor
  · exact fun ⟨known, parsed⟩ => ⟨.inr known, parsed⟩
  · rintro ⟨rfl | known, parsed⟩
    · cases failed.symm.trans parsed
    · exact ⟨known, parsed⟩

theorem cons (h : cache.Remembers seen) (fresh : signature ∉ seen)
    (parsed : Signature.parse signature = .ok f) :
    Remembers ⟨(signature, f) :: cache.entries⟩ (insert signature seen) := by
  constructor
  · rw [List.map_cons, List.nodup_cons]
    refine ⟨fun mem => ?_, h.distinct⟩
    obtain ⟨⟨other, g⟩, listed, rfl⟩ := List.mem_map.1 mem
    exact fresh ((h.mem_iff other g).1 listed).1
  · intro other g
    rw [List.mem_cons, h.mem_iff, Finset.mem_insert, Prod.mk.injEq]
    constructor
    · rintro (⟨rfl, rfl⟩ | ⟨known, again⟩)
      · exact ⟨.inl rfl, parsed⟩
      · exact ⟨.inr known, again⟩
    · rintro ⟨rfl | known, again⟩
      · cases parsed.symm.trans again
        exact .inl ⟨rfl, rfl⟩
      · exact .inr ⟨known, again⟩

theorem snd_function (h : cache.Remembers seen) (signature : String) :
    (cache.function signature).2.Remembers (insert signature seen) := by
  cases parsed : Signature.parse signature with
  | error e =>
    rw [h.function_of_error parsed]
    exact h.insert_of_error parsed
  | ok f =>
    by_cases known : signature ∈ seen
    · rw [h.function_of_seen known parsed, Finset.insert_eq_of_mem known]
      exact h
    · rw [h.function_of_fresh known parsed]
      exact h.cons known parsed

theorem fst_answer (h : cache.Remembers seen) (query : Query) :
    (cache.answer query).1 = query.direct := by
  cases query with
  | function signature => exact congrArg (Except.map Answer.function) (h.fst_function signature)
  | call signature arguments =>
    exact congrArg (Except.map Answer.calldata) (h.fst_call signature arguments)

theorem snd_answer (h : cache.Remembers seen) (query : Query) :
    (cache.answer query).2.Remembers (insert query.signature seen) := by
  cases query with
  | function signature => exact h.snd_function signature
  | call signature arguments => exact h.snd_function signature

theorem run (h : cache.Remembers seen) (queries : List Query) :
    (cache.run queries).1 = queries.map Query.direct ∧
      (cache.run queries).2.Remembers (seen ∪ (queries.map Query.signature).toFinset) := by
  induction queries generalizing cache seen with
  | nil =>
    rw [List.map_nil, List.map_nil, List.toFinset_nil, Finset.union_empty]
    exact ⟨rfl, h⟩
  | cons query rest ih =>
    obtain ⟨others, after⟩ := ih (h.snd_answer query)
    refine ⟨congrArg₂ List.cons (h.fst_answer query) others, ?_⟩
    rw [List.map_cons, List.toFinset_cons, Finset.union_insert, ← Finset.insert_union]
    exact after

theorem size_eq (h : cache.Remembers seen) :
    cache.size = (seen.filter fun signature => (Signature.parse signature).isOk).card := by
  rw [size, ← List.length_map Prod.fst, ← List.toFinset_card_of_nodup h.distinct]
  congr 1
  ext signature
  rw [List.mem_toFinset, List.mem_map, Finset.mem_filter]
  constructor
  · rintro ⟨⟨_, f⟩, listed, rfl⟩
    obtain ⟨known, parsed⟩ := (h.mem_iff _ f).1 listed
    exact ⟨known, by rw [parsed]; rfl⟩
  · rintro ⟨known, accepted⟩
    cases parsed : Signature.parse signature with
    | error e =>
      rw [parsed] at accepted
      cases accepted
    | ok f => exact ⟨(signature, f), (h.mem_iff signature f).2 ⟨known, parsed⟩, rfl⟩

theorem answer_of_error (h : cache.Remembers seen) (query : Query)
    (failed : Signature.parse query.signature = .error e) :
    cache.answer query = (.error e, cache) := by
  cases query with
  | function signature =>
    exact congrArg (fun found : Except AbiError Function × SignatureCache =>
      (found.1.map Answer.function, found.2)) (h.function_of_error failed)
  | call signature arguments =>
    exact congrArg (fun found : Except AbiError Function × SignatureCache =>
      ((found.1.bind (·.call arguments)).map Answer.calldata, found.2))
      (h.function_of_error failed)

theorem mem_snd_answer_iff (h : cache.Remembers seen) (query : Query)
    (parsed : Signature.parse query.signature = .ok f) (entry : String × Function) :
    entry ∈ (cache.answer query).2.entries ↔
      entry ∈ cache.entries ∨ entry = (query.signature, f) := by
  obtain ⟨signature, g⟩ := entry
  rw [(h.snd_answer query).mem_iff, h.mem_iff, Finset.mem_insert, Prod.mk.injEq]
  constructor
  · rintro ⟨rfl | known, again⟩
    · exact .inr ⟨rfl, Except.ok.inj (again.symm.trans parsed)⟩
    · exact .inl ⟨known, again⟩
  · rintro (⟨known, again⟩ | ⟨rfl, rfl⟩)
    · exact ⟨.inr known, again⟩
    · exact ⟨.inl rfl, parsed⟩

end Remembers
end SignatureCache

def Exchange.signatures : List (String × Function) := [
  -- In pieces: proofs that evaluate a long literal take time quadratic in its length.
  ("function convert2(address[] path, " ++ "uint256 amount, uint256 minReturn, " ++
    "address affiliateAccount, " ++ "uint256 affiliateFee) " ++ "payable returns (uint256)",
    Converter.convert2),
  ("function swapExactTokensForTokens(" ++ "uint256 amountIn, uint256 amountOutMin, " ++
    "address[] calldata path, " ++ "address to, uint256 deadline) " ++
    "external returns (uint256[] memory amounts)", PairRouter.swapExactIn),
  ("function swapTokensForExactTokens(" ++ "uint256 amountOut, uint256 amountInMax, " ++
    "address[] calldata path, " ++ "address to, uint256 deadline) " ++
    "external returns (uint256[] memory amounts)", PairRouter.swapExactOut),
  ("function sellGem(" ++ "address usr, uint256 gemAmt) external", PegModule.sellGem),
  ("function buyGem(" ++ "address usr, uint256 gemAmt) external", PegModule.buyGem),
  ("function deposit() payable", NativeWrapper.deposit),
  ("function withdraw(uint256 wad)", NativeWrapper.withdraw)]

theorem Exchange.parse_signatures :
    ∀ p ∈ signatures, Signature.parse p.1 = .ok p.2 := by
  simp only [signatures, List.forall_mem_cons, Signature.parse, Signature.tokens,
    String.toList_append]
  refine ⟨?_, ?_, ?_, ?_, ?_, ?_, ?_, nofun⟩ <;> cbv

/-- Whatever a cache was asked for since it was empty, it answers as an empty one does, and holds the
function of each signature asked for that can be parsed, once.  A query that fails to parse leaves no
trace, and a call with arguments that do not fit leaves the function alone.  So exchanges that share
a cache form the calls that they form from their own functions. -/
theorem SignatureCache.transparent (history : List Query) :
    let cache := (empty.run history).2
    (empty.run history).1 = history.map (fun query => (empty.answer query).1) ∧
    cache.Remembers (history.map Query.signature).toFinset ∧
    cache.size = ((history.map Query.signature).toFinset.filter
      fun signature => (Signature.parse signature).isOk).card ∧
    (∀ query e, Signature.parse query.signature = .error e →
      cache.answer query = (.error e, cache)) ∧
    (∀ signature arguments f e, Signature.parse signature = .ok f → f.call arguments = .error e →
      (cache.answer (.call signature arguments)).1 = .error e ∧
      ∀ entry, entry ∈ (cache.answer (.call signature arguments)).2.entries ↔
        entry ∈ cache.entries ∨ entry = (signature, f)) ∧
    ∀ p ∈ Exchange.signatures, (cache.function p.1).1 = .ok p.2 ∧
      ∀ arguments, (cache.call p.1 arguments).1.mapError .abi = encodeCall p.2 arguments := by
  obtain ⟨answers, kept⟩ := remembers_empty.run history
  rw [Finset.empty_union] at kept
  refine ⟨?_, kept, kept.size_eq, fun query _ => kept.answer_of_error query, ?_, ?_⟩
  · rw [answers]
    exact List.map_congr_left fun query _ => (remembers_empty.fst_answer query).symm
  · intro signature arguments f e parsed failed
    refine ⟨?_, kept.mem_snd_answer_iff (.call signature arguments) parsed⟩
    rw [kept.fst_answer, Query.direct, parsed]
    exact congrArg (Except.map Answer.calldata) failed
  · intro p listed
    have parsed := Exchange.parse_signatures p listed
    refine ⟨(kept.fst_function p.1).trans parsed, fun arguments => ?_⟩
    rw [kept.fst_call, parsed, encodeCall]
    change (p.2.call arguments).mapError ExchangeError.abi = _
    cases p.2.call arguments <;> rfl

/-- The cache after a signature that cannot be parsed, a withdrawal without its amount and a look-up of
the withdrawal: it holds the withdrawal only, and answers as before. -/
theorem SignatureCache.transparent_withdraw :
    let history : List Query := [.function "function ((",
      .call "function withdraw(uint256 wad)" [], .function "function withdraw(uint256 wad)"]
    let cache := (empty.run history).2
    Signature.parse "function ((" = .error (.badSignature "function ((") ∧
    Signature.parse "function withdraw(uint256 wad)" = .ok NativeWrapper.withdraw ∧
    NativeWrapper.withdraw.call [] = .error (.badArguments "withdraw") ∧
    cache.size = 1 ∧
    (cache.function "function withdraw(uint256 wad)").1 = .ok NativeWrapper.withdraw ∧
    cache.answer (.function "function ((") = (.error (.badSignature "function (("), cache) ∧
    (cache.answer (.call "function withdraw(uint256 wad)" [])).1 =
      .error (.badArguments "withdraw") := by
  intro history cache
  obtain ⟨_, _, size, unparsed, unfit, exchanges⟩ := transparent history
  have bad : Signature.parse "function ((" = .error (.badSignature "function ((") := by cbv
  have withdraw : ("function withdraw(uint256 wad)", NativeWrapper.withdraw) ∈
      Exchange.signatures := List.mem_of_getElem? (i := 6) rfl
  have good := Exchange.parse_signatures _ withdraw
  have misfit : NativeWrapper.withdraw.call [] = .error (.badArguments "withdraw") :=
    if_neg (by decide)
  have found := (exchanges _ withdraw).1
  have failed := unparsed (.function "function ((") _ bad
  have unfitting := (unfit _ _ _ _ good misfit).1
  refine ⟨bad, good, misfit, ?_, found, failed, unfitting⟩
  rw [size]
  simp [history, Query.signature, Finset.filter_insert, Finset.filter_singleton, bad, good,
    Except.isOk, Except.toBool]

end SwapPlan
