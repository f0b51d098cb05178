import SwapPlan.Proofs.Exchange.Contracts
import SwapPlan.Proofs.Plan.Reading
/-!
# The order of default addresses

Names of exchanges are compared in any case, but a book may list a name in several cases.  Then the
order of the entries decides which address is found.  Where such names have one address the order does
not matter, neither for an address nor for a plan (`Network.exchanges_order_iff`).
-/
set_option autoImplicit false

namespace SwapPlan

namespace AddressBook

/-- Names that differ in case only have the same address. -/
def Unambiguous (book : AddressBook String) : Prop :=
  ∀ e ∈ book.entries, ∀ f ∈ book.entries, e.1.toLower = f.1.toLower → e.2 = f.2

def reordered {κ : Type} (book : AddressBook κ) (entries : List (κ × Address))
    (order : entries.Perm book.entries) : AddressBook κ :=
  ⟨entries, (order.map Prod.fst).nodup_iff.2 book.nodup_keys⟩

theorem Unambiguous.of_perm {book other : AddressBook String} (h : book.Unambiguous)
    (order : other.entries.Perm book.entries) : other.Unambiguous :=
  fun e first f second same => h e (order.mem_iff.1 first) f (order.mem_iff.1 second) same

end AddressBook

namespace Network

variable {network : Network} {book : AddressBook String}

def withExchanges (network : Network) (book : AddressBook String) : Network :=
  { network with exchanges := book }

theorem exchangeAddress?_eq_some_iff {name : String} {address : Address}
    (h : network.exchanges.Unambiguous) :
    network.exchangeAddress? name = some address ↔
      ∃ e ∈ network.exchanges.entries, e.1.toLower = name.toLower ∧ e.2 = address := by
  rw [exchangeAddress?, Option.map_eq_some_iff]
  constructor
  · rintro ⟨e, found, rfl⟩
    exact ⟨e, List.mem_of_find?_eq_some found, by simpa using List.find?_some found, rfl⟩
  · rintro ⟨e, mem, named, rfl⟩
    obtain ⟨f, found⟩ : ∃ f,
        network.exchanges.entries.find? (·.1.toLower = name.toLower) = some f := by
      rw [← Option.isSome_iff_exists, List.find?_isSome]
      exact ⟨e, mem, by simpa using named⟩
    have same : f.1.toLower = name.toLower := by simpa using List.find?_some found
    exact ⟨f, found, h f (List.mem_of_find?_eq_some found) e mem (same.trans named.symm)⟩

theorem exchangeAddress?_of_perm (h : network.exchanges.Unambiguous)
    (order : book.entries.Perm network.exchanges.entries) (name : String) :
    (network.withExchanges book).exchangeAddress? name = network.exchangeAddress? name := by
  have other : (network.withExchanges book).exchanges.Unambiguous := h.of_perm order
  apply Option.ext
  intro address
  rw [exchangeAddress?_eq_some_iff h, exchangeAddress?_eq_some_iff other]
  simp only [withExchanges, order.mem_iff]

theorem exchangeAddress?_cons {e : String × Address} {rest : List (String × Address)}
    (first : book.entries = e :: rest) :
    (network.withExchanges book).exchangeAddress? e.1 = some e.2 := by
  simp [exchangeAddress?, withExchanges, first]

theorem unambiguous_of_exchangeAddress?
    (h : ∀ book : AddressBook String, book.entries.Perm network.exchanges.entries → ∀ name,
      (network.withExchanges book).exchangeAddress? name = network.exchangeAddress? name) :
    network.exchanges.Unambiguous := by
  -- Either entry may come first, and is then found under the name of both.
  have listed : ∀ e ∈ network.exchanges.entries, network.exchangeAddress? e.1 = some e.2 := by
    intro e mem
    have order := (List.perm_cons_erase mem).symm
    rw [← h (network.exchanges.reordered _ order) order]
    exact exchangeAddress?_cons rfl
  intro e first f second same
  have found := network.exchangeAddress?_toLower same
  rw [listed e first, listed f second] at found
  exact Option.some.inj found

end Network

theorem Registry.ofNetwork_withExchanges {network : Network} {book : AddressBook String}
    (h : ∀ name, (network.withExchanges book).exchangeAddress? name =
      network.exchangeAddress? name) :
    Registry.ofNetwork (network.withExchanges book) = Registry.ofNetwork network := by
  have exchanges : Exchange.ofNetwork (network.withExchanges book) =
      Exchange.ofNetwork network := by
    simp only [Exchange.ofNetwork, Converter.ofNetwork, PairRouter.ofNetwork, PegModule.ofNetwork,
      h]
    rfl
  rw [Registry.ofNetwork, Registry.ofNetwork, exchanges]
  rfl

theorem Leg.wrapFaultFrom?_withExchanges {network : Network} {book : AddressBook String} {leg : Leg}
    {position : Nat} {steps : List Step} :
    leg.wrapFaultFrom? (network.withExchanges book) position steps =
      leg.wrapFaultFrom? network position steps := by
  induction steps generalizing position with
  | nil => rfl
  | cons step rest ih =>
    rw [wrapFaultFrom?, wrapFaultFrom?, ih]
    cases step <;> rfl

namespace Compiler

variable {network : Network} {book : AddressBook String} {registry : Registry}

theorem hopCalls_withExchanges {context : LegContext} {leg : Leg} {position : Nat}
    {hops : List Hop} :
    hopCalls ⟨network.withExchanges book, registry⟩ context leg position hops =
      hopCalls ⟨network, registry⟩ context leg position hops := by
  induction hops generalizing position with
  | nil => rfl
  | cons hop rest ih =>
    rw [hopCalls, hopCalls, ih]
    rfl

theorem legRecords_withExchanges {context : LegContext} {leg : Leg} :
    legRecords ⟨network.withExchanges book, registry⟩ context leg =
      legRecords ⟨network, registry⟩ context leg := by
  simp only [legRecords, Leg.wrapFault?, Leg.wrapFaultFrom?_withExchanges, hopCalls_withExchanges]
  rfl

theorem legsRecords_withExchanges {context : LegContext} {legs : List Leg} :
    legsRecords ⟨network.withExchanges book, registry⟩ context legs =
      legsRecords ⟨network, registry⟩ context legs := by
  induction legs generalizing context with
  | nil => rfl
  | cons leg rest ih => simp only [legsRecords, legRecords_withExchanges, ih]

/-- Compilation finds default addresses through its registry only. -/
theorem compile_withExchanges (route : Route) (executor : Executor) :
    compile ⟨network.withExchanges book, registry⟩ route executor =
      compile ⟨network, registry⟩ route executor := by
  rw [compile, compile]
  simp only [legsRecords_withExchanges]
  rfl

end Compiler

/-- The order of the default addresses does not matter exactly if names that differ in case have one
address, and then it does not matter for any plan either. -/
theorem Network.exchanges_order_iff (network : Network) :
    ((∀ book : AddressBook String, book.entries.Perm network.exchanges.entries → ∀ name,
        (network.withExchanges book).exchangeAddress? name = network.exchangeAddress? name) ↔
      network.exchanges.Unambiguous) ∧
    (network.exchanges.Unambiguous →
      ∀ book : AddressBook String, book.entries.Perm network.exchanges.entries →
        ∀ route executor,
          (Compiler.ofNetwork (network.withExchanges book)).compile route executor =
            (Compiler.ofNetwork network).compile route executor) := by
  constructor
  · constructor
    · exact unambiguous_of_exchangeAddress?
    · exact fun h book order name => exchangeAddress?_of_perm h order name
  · intro h book order route executor
    have registry := Registry.ofNetwork_withExchanges (exchangeAddress?_of_perm h order)
    rw [Compiler.ofNetwork, registry]
    exact Compiler.compile_withExchanges route executor

/-- A network without a fault may list a name in two cases, and finds then what comes first. -/
theorem Network.exists_order_dependence :
    let network := Network.sample.withExchanges
      ((AddressBook.empty.insert "bancor" (.repeated 0xAA)).insert "BANCOR" (.repeated 0xBB))
    let book : AddressBook String :=
      (AddressBook.empty.insert "BANCOR" (.repeated 0xBB)).insert "bancor" (.repeated 0xAA)
    network.fault? = none ∧ book.entries.Perm network.exchanges.entries ∧
      network.exchangeAddress? Converter.key = some (.repeated 0xAA) ∧
      (network.withExchanges book).exchangeAddress? Converter.key = some (.repeated 0xBB) := by
  intro network book
  have listed : network.exchanges.entries =
      [("bancor", .repeated 0xAA), ("BANCOR", .repeated 0xBB)] := by
    simp [network, Network.withExchanges, AddressBook.insert, AddressBook.empty, AddressBook.place]
  have relisted : book.entries = [("BANCOR", .repeated 0xBB), ("bancor", .repeated 0xAA)] := by
    simp [book, AddressBook.insert, AddressBook.empty, AddressBook.place]
  have spelled : Converter.key.toLower = "BANCOR".toLower := by cbv
  refine ⟨by decide, ?_, Network.exchangeAddress?_cons listed, ?_⟩
  · rw [listed, relisted]
    exact .swap _ _ []
  · rw [Network.exchangeAddress?_toLower _ spelled]
    exact Network.exchangeAddress?_cons relisted

end SwapPlan
