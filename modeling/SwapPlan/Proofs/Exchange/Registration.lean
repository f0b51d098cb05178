import SwapPlan.Proofs.Exchange.Contracts
/-!
# Registries after registrations

Registering an exchange replaces the one of its name and nothing else, so a registry finds what was
registered last under a name (`Registry.find?_after`), knows the same four names throughout, and
keeps the wrapper of its chain.
-/
set_option autoImplicit false

namespace SwapPlan.Registry

variable {exchange other : Exchange} {exchanges history : List Exchange} {registry : Registry}

theorem find?_place (exchange : Exchange) (exchanges : List Exchange) (name : String) :
    (place exchange exchanges).find? (·.key = name) =
      if exchange.key = name then some exchange else exchanges.find? (·.key = name) := by
  induction exchanges with
  | nil =>
    rw [place, List.find?_cons]
    by_cases named : exchange.key = name <;> simp [named]
  | cons e rest ih =>
    rw [place]
    by_cases same : e.key = exchange.key
    · rw [if_pos same, List.find?_cons, List.find?_cons, same]
      by_cases named : exchange.key = name <;> simp [named]
    · rw [if_neg same, List.find?_cons, List.find?_cons, ih]
      by_cases named : e.key = name
      · have another : exchange.key ≠ name := fun also => same (named.trans also.symm)
        simp [named, another]
      · simp [named]

theorem map_key_place (known : exchange.key ∈ exchanges.map Exchange.key) :
    (place exchange exchanges).map Exchange.key = exchanges.map Exchange.key := by
  induction exchanges with
  | nil => cases known
  | cons e rest ih =>
    rw [place]
    by_cases same : e.key = exchange.key
    · rw [if_pos same, List.map_cons, List.map_cons, same]
    · have behind := (List.mem_cons.1 known).resolve_left (Ne.symm same)
      rw [if_neg same, List.map_cons, List.map_cons, ih behind]

/-- An exchange that takes the place of another of its name may be put there before or after one of
another name. -/
theorem place_comm (different : exchange.key ≠ other.key)
    (known : exchange.key ∈ exchanges.map Exchange.key) :
    place other (place exchange exchanges) = place exchange (place other exchanges) := by
  induction exchanges with
  | nil => cases known
  | cons e rest ih =>
    by_cases first : e.key = exchange.key
    · have apart : e.key ≠ other.key := fun second => different (first.symm.trans second)
      rw [place, if_pos first, place, if_neg different, place, if_neg apart, place, if_pos first]
    · have behind := (List.mem_cons.1 known).resolve_left (Ne.symm first)
      by_cases second : e.key = other.key
      · rw [place, if_neg first, place, if_pos second, place, if_pos second, place,
          if_neg (Ne.symm different)]
      · rw [place, if_neg first, place, if_neg second, place, if_neg second, place,
          if_neg first, ih behind]

theorem isSome_find?_iff {name : String} :
    (registry.find? name).isSome ↔ name.toLower ∈ registry.keys := by
  rw [find?, List.find?_isSome, keys, List.mem_map]
  simp only [decide_eq_true_eq]

def names : List String := ["bancor", "uniswapv2", "makerpsm", "weth"]

theorem keys_ofNetwork (network : Network) : (ofNetwork network).keys = names := by
  rw [keys, exchanges_ofNetwork]
  rfl

theorem key_mem_names : ∀ exchange : Exchange, exchange.key ∈ names
  | .converter _ => .head _
  | .pairRouter _ => .tail _ (.head _)
  | .pegModule _ => .tail _ (.tail _ (.head _))
  | .nativeWrapper _ => .tail _ (.tail _ (.tail _ (.head _)))

/-- The registry of a chain after exchanges were registered, oldest first. -/
def after (network : Network) (history : List Exchange) : Registry :=
  history.foldl register (ofNetwork network)

theorem keys_foldl_register (known : registry.keys = names) (history : List Exchange) :
    (history.foldl register registry).keys = names := by
  induction history generalizing registry with
  | nil => exact known
  | cons e rest ih =>
    refine ih (Eq.trans (map_key_place ?_) known)
    show e.key ∈ registry.keys
    rw [known]
    exact key_mem_names e

theorem keys_after (network : Network) (history : List Exchange) :
    (after network history).keys = names :=
  keys_foldl_register (keys_ofNetwork network) history

theorem wrapper_foldl_register (registry : Registry) (history : List Exchange) :
    (history.foldl register registry).wrapper = registry.wrapper := by
  induction history generalizing registry with
  | nil => rfl
  | cons e rest ih => exact ih (registry.register e)

theorem wrapper_after (network : Network) (history : List Exchange) :
    (after network history).wrapper = .ofNetwork network := by
  rw [after, wrapper_foldl_register, ofNetwork, wrapper_foldl_register]

theorem find?_foldl_register (registry : Registry) (history : List Exchange) (name : String) :
    (history.foldl register registry).find? name =
      (history.reverse ++ registry.exchanges).find? (·.key = name.toLower) := by
  induction history generalizing registry with
  | nil => rfl
  | cons e rest ih =>
    rw [List.foldl_cons, ih, List.reverse_cons, List.append_assoc, List.find?_append,
      List.find?_append, register, find?_place, List.singleton_append, List.find?_cons]
    by_cases named : e.key = name.toLower <;> simp [named]

/-- What was registered last under a name is found, or else the exchange of the chain. -/
theorem find?_after (network : Network) (history : List Exchange) (name : String) :
    (after network history).find? name =
      (history.reverse ++ Exchange.ofNetwork network).find? (·.key = name.toLower) := by
  rw [after, find?_foldl_register, exchanges_ofNetwork]

theorem register_comm (known : registry.keys = names) (different : exchange.key ≠ other.key) :
    (registry.register exchange).register other = (registry.register other).register exchange := by
  have placed : exchange.key ∈ registry.exchanges.map Exchange.key := by
    show exchange.key ∈ registry.keys
    rw [known]
    exact key_mem_names exchange
  rw [register, register, register, register, place_comm different placed]

end SwapPlan.Registry
