import SwapPlan.Network.Json
import SwapPlan.Proofs.Exchange.Contracts
import SwapPlan.Proofs.Json.Documents
import SwapPlan.Proofs.Json.Records
import SwapPlan.Proofs.Network.Ordering
/-!
# Networks written and read again

A network that is fit for use is read from its text as it is, and so is every network that was read
from some text (`Network.ofText_toText`).  The entries of an address book may be written in any
order; what is read has the same addresses at the same keys (`Network.Agrees`).
-/
set_option autoImplicit false

namespace SwapPlan

namespace AddressBook

variable {κ : Type} [DecidableEq κ]

theorem place_of_notMem {key : κ} {address : Address} {entries : List (κ × Address)}
    (fresh : key ∉ entries.map Prod.fst) :
    place key address entries = entries ++ [(key, address)] := by
  induction entries with
  | nil => rfl
  | cons e rest ih =>
    rw [List.map_cons, List.mem_cons, not_or] at fresh
    rw [place, if_neg (Ne.symm fresh.1), ih fresh.2]
    rfl

theorem entries_foldl_insert {entries : List (κ × Address)} {book : AddressBook κ}
    (nodup : ((book.entries ++ entries).map Prod.fst).Nodup) :
    (entries.foldl (fun book e => book.insert e.1 e.2) book).entries = book.entries ++ entries := by
  induction entries generalizing book with
  | nil => simp
  | cons e rest ih =>
    have fresh : e.1 ∉ book.entries.map Prod.fst := by
      rw [List.map_append, List.nodup_append] at nodup
      exact fun mem => nodup.2.2 e.1 mem e.1 (List.mem_cons_self ..) rfl
    have placed : (book.insert e.1 e.2).entries = book.entries ++ [e] := place_of_notMem fresh
    rw [List.foldl_cons, ih (by simpa [placed] using nodup), placed, List.append_assoc]
    rfl

theorem ofList_entries (book : AddressBook κ) : ofList book.entries = book := by
  apply ext
  rw [ofList, entries_foldl_insert (by simpa [empty] using book.nodup_keys)]
  rfl

end AddressBook

namespace Network

open Json (Reader Field Shape)

/-- Two networks have the same contracts.  The entries of their address books may be in different
orders. -/
structure Agrees (network other : Network) : Prop where
  chainId : other.chainId = network.chainId
  name : other.name = network.name
  nativeToken : other.nativeToken = network.nativeToken
  wrappedNative : other.wrappedNative = network.wrappedNative
  augustus : other.augustus = network.augustus
  tokenTransferProxy : other.tokenTransferProxy = network.tokenTransferProxy
  executors : ∀ executor, other.executors.find? executor = network.executors.find? executor
  adapters : ∀ name, other.adapters.find? name = network.adapters.find? name
  exchanges : ∀ name, other.exchanges.find? name = network.exchanges.find? name

namespace Agrees

variable {network other third : Network}

theorem refl (network : Network) : network.Agrees network :=
  ⟨rfl, rfl, rfl, rfl, rfl, rfl, fun _ => rfl, fun _ => rfl, fun _ => rfl⟩

theorem trans (h : network.Agrees other) (k : other.Agrees third) : network.Agrees third where
  chainId := k.chainId.trans h.chainId
  name := k.name.trans h.name
  nativeToken := k.nativeToken.trans h.nativeToken
  wrappedNative := k.wrappedNative.trans h.wrappedNative
  augustus := k.augustus.trans h.augustus
  tokenTransferProxy := k.tokenTransferProxy.trans h.tokenTransferProxy
  executors executor := (k.executors executor).trans (h.executors executor)
  adapters name := (k.adapters name).trans (h.adapters name)
  exchanges name := (k.exchanges name).trans (h.exchanges name)

theorem executorAddress?_eq (h : network.Agrees other) (executor : Executor) :
    other.executorAddress? executor = network.executorAddress? executor := h.executors executor

theorem isNative_eq (h : network.Agrees other) (token : Address) :
    other.isNative token = network.isNative token := by
  rw [isNative, isNative, h.nativeToken]

theorem mem_exchanges (h : network.Agrees other) (e : String × Address) :
    e ∈ other.exchanges.entries ↔ e ∈ network.exchanges.entries := by
  rw [← AddressBook.find?_eq_some_iff, ← AddressBook.find?_eq_some_iff, h.exchanges]

theorem exchangeAddress?_eq (h : network.Agrees other) (clear : network.exchanges.Unambiguous)
    (name : String) : other.exchangeAddress? name = network.exchangeAddress? name := by
  have clearly : other.exchanges.Unambiguous := fun e first f second =>
    clear e ((h.mem_exchanges e).1 first) f ((h.mem_exchanges f).1 second)
  apply Option.ext
  intro address
  simp only [exchangeAddress?_eq_some_iff clear, exchangeAddress?_eq_some_iff clearly,
    h.mem_exchanges]

theorem fault?_eq_none (h : network.Agrees other) (fit : network.fault? = none) :
    other.fault? = none := by
  obtain ⟨wrappedNative, augustus, proxy, executors, placeholder⟩ := fault?_eq_none_iff.1 fit
  rw [fault?_eq_none_iff]
  refine ⟨?_, ?_, ?_, ?_, ?_⟩
  · rwa [h.wrappedNative]
  · rwa [h.augustus]
  · rwa [h.tokenTransferProxy]
  · intro executor
    rw [h.executorAddress?_eq]
    exact executors executor
  · rwa [h.nativeToken, h.wrappedNative]

end Agrees

/-- An address book is read as it was written, if its keys can be read from their names. -/
theorem bookReader_bookToJson {κ : Type} [DecidableEq κ] {key? : String → Option κ}
    {name : κ → String} (named : ∀ key, key? (name key) = some key) (book : AddressBook κ) :
    bookReader key? (bookToJson name book) = .ok book := by
  rw [bookToJson, bookReader, Outcome.mapM_map_eq_ok, Outcome.ok_bind, AddressBook.ofList_entries]
  · rfl
  · rintro ⟨key, address⟩ _
    simp only [named, Reader.address_text]
    rfl

theorem natural_chainId (network : Network) :
    Reader.natural UInt64.size "u64" (.int network.chainId.toNat) = .ok network.chainId.toNat :=
  Reader.natural_int network.chainId.toNat_lt_size _

theorem lists_toMembers (network : Network) : shape.Lists network.toMembers network.toMembers where
  names := by decide
  takes := by
    have executors := bookReader_bookToJson Executor.ofName?_name network.executors
    have adapters := bookReader_bookToJson (fun _ => rfl) network.adapters
    have exchanges := bookReader_bookToJson (fun _ => rfl) network.exchanges
    refine .cons (Field.takes_mandatory _ network.natural_chainId) <|
      .cons (Field.takes_mandatory _ (Reader.text_string _)) <|
      .cons (Field.takes_optional _ (Reader.address_text _)) <|
      .cons (Field.takes_mandatory _ (Reader.address_text _)) <|
      .cons (Field.takes_mandatory _ (Reader.address_text _)) <|
      .cons (Field.takes_mandatory _ (Reader.address_text _)) <|
      .cons (Field.takes_optional _ executors) <|
      .cons (Field.takes_optional _ adapters) <|
      .cons (Field.takes_optional _ exchanges) .nil
  order := .refl _

/-- A written network is read as it was. -/
theorem ofJson_toJson (network : Network) : ofJson network.toJson = .ok network := by
  have lists := network.lists_toMembers
  have chainId := lists.require_eq "network" (by simp [toMembers]) network.natural_chainId
  have name := lists.require_eq "networkName" (by simp [toMembers]) (Reader.text_string network.name)
  have nativeToken := lists.withDefault_eq "nativeTokenAddress" (by simp [toMembers])
    (Reader.address_text network.nativeToken) defaultNativeToken
  have wrappedNative := lists.require_eq "wrappedNativeTokenAddress"
    (by simp [toMembers]) (Reader.address_text network.wrappedNative)
  have augustus := lists.require_eq "augustusAddress" (by simp [toMembers])
    (Reader.address_text network.augustus)
  have proxy := lists.require_eq "tokenTransferProxyAddress" (by simp [toMembers])
    (Reader.address_text network.tokenTransferProxy)
  have executors := lists.withDefault_eq "executorsAddresses" (by simp [toMembers])
    (bookReader_bookToJson Executor.ofName?_name network.executors) .empty
  have adapters := lists.withDefault_eq "adapterAddresses" (by simp [toMembers])
    (bookReader_bookToJson (fun _ => rfl) network.adapters) .empty
  have exchanges := lists.withDefault_eq "exchangeAddresses" (by simp [toMembers])
    (bookReader_bookToJson (fun _ => rfl) network.exchanges) .empty
  rw [ofJson, toJson, lists.members_eq, Outcome.ok_bind, chainId, Outcome.ok_bind, name,
    Outcome.ok_bind, nativeToken, Outcome.ok_bind, wrappedNative, Outcome.ok_bind, augustus,
    Outcome.ok_bind, proxy, Outcome.ok_bind, executors, Outcome.ok_bind, adapters,
    Outcome.ok_bind, exchanges, Outcome.ok_bind, UInt64.ofNat_toNat]
  rfl

theorem exact_bookToJson {κ : Type} (name : κ → String) (book : AddressBook κ) :
    (bookToJson name book).Exact := by
  rw [bookToJson, Json.Exact]
  induction book.entries with
  | nil => trivial
  | cons e rest ih => exact ⟨trivial, ih⟩

theorem exact_toJson (network : Network) : network.toJson.Exact := by
  have low : -(2 ^ 63 : Int) ≤ network.chainId.toNat := by omega
  have high : (network.chainId.toNat : Int) < 2 ^ 64 := Int.ofNat_lt.2 network.chainId.toNat_lt
  simp only [toJson, toMembers, Json.Exact, Json.ExactMembers, exact_bookToJson, and_true]
  exact ⟨low, high⟩

theorem checked_eq_ok {network other : Network} :
    network.checked = .ok other ↔ network = other ∧ other.fault? = none := by
  rw [checked]
  cases fault : network.fault? with
  | some _ =>
    simp only [reduceCtorEq, false_iff, not_and]
    rintro rfl
    simp [fault]
  | none =>
    simp only [Except.ok.injEq, iff_self_and]
    rintro rfl
    exact fault

/-- A text is read if it is a document whose known members make a network that is fit for use. -/
theorem ofText_eq_ok {text : String} {network : Network} :
    ofText text = .ok network ↔ ∃ document v, Json.Document.ofText? text = some document ∧
      document.restrict? (shape.fields.map (·.name)) = some v ∧ ofJson v = .ok network ∧
      network.fault? = none := by
  rw [ofText]
  cases parsed : Json.Document.ofText? text with
  | none => simp [throw, throwThe, MonadExceptOf.throw]
  | some document =>
    cases restricted : document.restrict? (shape.fields.map (·.name)) with
    | none => simp [restricted, throw, throwThe, MonadExceptOf.throw]
    | some v =>
      cases read : ofJson v with
      | error _ => simp [restricted, read, throw, throwThe, MonadExceptOf.throw]
      | ok other => simp [restricted, read, checked_eq_ok]

theorem ofText_toText_of_fit {network : Network} (fit : network.fault? = none) :
    ofText network.toJson.toText = .ok network := by
  have known : ∀ m ∈ network.toMembers, m.1 ∈ shape.fields.map (·.name) := by
    rw [← Field.map_fst_of_takes network.lists_toMembers.takes]
    exact fun m mem => List.mem_map_of_mem mem
  exact ofText_eq_ok.2 ⟨_, _, Json.Document.ofText?_toText network.exact_toJson,
    Json.Document.restrict?_ofJson known, network.ofJson_toJson, fit⟩

/-- Writing a network and reading it again changes nothing, for every network that is fit for use
and for every one that was read from some text.  The entries of its address books may be written in
any order (`written`), and after reading they may be in any order again (`loaded`). -/
theorem ofText_toText {network written : Network}
    (accepted : network.fault? = none ∨ ∃ text, ofText text = .ok network)
    (same : network.Agrees written) :
    ofText written.toJson.toText = .ok written ∧
      ∀ loaded, written.Agrees loaded → network.Agrees loaded ∧
        (∀ executor, loaded.executorAddress? executor = network.executorAddress? executor) ∧
        (∀ token, loaded.isNative token = network.isNative token) ∧
        (network.exchanges.Unambiguous →
          ∀ name, loaded.exchangeAddress? name = network.exchangeAddress? name) := by
  have fit : network.fault? = none := by
    rcases accepted with fit | ⟨text, accepted⟩
    · exact fit
    · obtain ⟨_, _, _, _, _, fit⟩ := ofText_eq_ok.1 accepted
      exact fit
  refine ⟨ofText_toText_of_fit (same.fault?_eq_none fit), fun loaded read => ?_⟩
  have agrees := same.trans read
  exact ⟨agrees, agrees.executorAddress?_eq, agrees.isNative_eq, agrees.exchangeAddress?_eq⟩

/-- A network read from an array without adapters and default addresses, with digits in both cases
and two executors, which are then written in the other order. -/
theorem ofText_toText_reordered :
    let v : Json := .array [.int 7, .string "n",
      .string "EeeeeeeeeeeeeeeeeeeeeeeeeeeeeeeeeeeeeeeE",
      .string "0xc0C0c0c0c0c0c0c0c0c0c0c0c0c0c0c0c0c0c0C0",
      .string "0xa0a0a0a0a0a0a0a0a0a0a0a0a0a0a0a0a0a0a0a0",
      .string "0xb0b0b0b0b0b0b0b0b0b0b0b0b0b0b0b0b0b0b0b0",
      .object [("Executor03", .string "0xe3e3e3e3e3e3e3e3e3e3e3e3e3e3e3e3e3e3e3e3"),
        ("Executor01", .string "0xe1e1e1e1e1e1e1e1e1e1e1e1e1e1e1e1e1e1e1e1")]]
    let network : Network := ⟨7, "n", defaultNativeToken, .repeated 0xC0, .repeated 0xA0,
      .repeated 0xB0, (AddressBook.empty.insert .third (.repeated 0xE3)).insert .first
      (.repeated 0xE1), .empty, .empty⟩
    let written := { network with executors :=
      (AddressBook.empty.insert .first (.repeated 0xE1)).insert .third (.repeated 0xE3) }
    ofText v.toText = .ok network ∧ network.Agrees written ∧ network.exchanges.Unambiguous ∧
      ofText written.toJson.toText = .ok written ∧
      written.executorAddress? .third = some (.repeated 0xE3) ∧
      written.exchangeAddress? "bancor" = none := by
  intro v network written
  have exact : v.Exact := by simp [v, Json.Exact, Json.ExactItems, Json.ExactMembers]
  have read : ofJson v = .ok network := by cbv
  have accepted : ofText v.toText = .ok network :=
    ofText_eq_ok.2 ⟨_, v, Json.Document.ofText?_toText exact, rfl, read, (by decide)⟩
  have clear : network.exchanges.Unambiguous := by
    intro e listed
    cases listed
  have same : network.Agrees written := by
    refine ⟨rfl, rfl, rfl, rfl, rfl, rfl, ?_, fun _ => rfl, fun _ => rfl⟩
    intro executor
    cases executor <;> rfl
  obtain ⟨survives, answers⟩ := ofText_toText (.inr ⟨_, accepted⟩) same
  obtain ⟨_, executors, _, exchanges⟩ := answers written (.refl written)
  exact ⟨accepted, same, clear, survives, executors .third, exchanges clear _⟩

end Network
end SwapPlan
