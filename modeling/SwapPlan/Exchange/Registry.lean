import SwapPlan.Exchange.Converter
import SwapPlan.Exchange.NativeWrapper
import SwapPlan.Exchange.PairRouter
import SwapPlan.Exchange.PegModule
/-!
# Exchanges and their registry

The registry of a chain finds an exchange by name, in any case of the ASCII letters.  Registering an
exchange replaces the one of the same name.  The wrapper used around legs is the one of the chain
that the registry was made for, and registering does not change it.
-/
set_option autoImplicit false

namespace SwapPlan

inductive Exchange
  | converter (exchange : Converter)
  | pairRouter (exchange : PairRouter)
  | pegModule (exchange : PegModule)
  | nativeWrapper (exchange : NativeWrapper)

namespace Exchange

def key : Exchange → String
  | converter _ => Converter.key
  | pairRouter _ => PairRouter.key
  | pegModule _ => PegModule.key
  | nativeWrapper _ => NativeWrapper.key

def sides : Exchange → List Side
  | converter _ => Converter.sides
  | pairRouter _ => PairRouter.sides
  | pegModule _ => PegModule.sides
  | nativeWrapper _ => NativeWrapper.sides

def supports (exchange : Exchange) (side : Side) : Bool := exchange.sides.contains side

def ofNetwork (network : Network) : List Exchange :=
  [converter (.ofNetwork network), pairRouter (.ofNetwork network),
    pegModule (.ofNetwork network), nativeWrapper (.ofNetwork network)]

def adapterCall : Exchange → SwapRequest → Json → Except ExchangeError AdapterCall
  | converter e => e.adapterCall
  | pairRouter e => e.adapterCall
  | pegModule e => e.adapterCall
  | nativeWrapper e => e.adapterCall

def directCall : Exchange → SwapRequest → Json → Except ExchangeError DirectCall
  | converter e => e.directCall
  | pairRouter e => e.directCall
  | pegModule e => e.directCall
  | nativeWrapper e => e.directCall

def executorCall : Exchange → SwapRequest → Address → Json → Except ExchangeError ExecutorCall
  | converter e => e.executorCall
  | pairRouter e => e.executorCall
  | pegModule e => e.executorCall
  | nativeWrapper e => e.executorCall

end Exchange

structure Registry where
  exchanges : List Exchange
  wrapper : NativeWrapper

namespace Registry

def place (exchange : Exchange) : List Exchange → List Exchange
  | [] => [exchange]
  | e :: rest => if e.key = exchange.key then exchange :: rest else e :: place exchange rest

def register (registry : Registry) (exchange : Exchange) : Registry :=
  { registry with exchanges := place exchange registry.exchanges }

def ofNetwork (network : Network) : Registry :=
  (Exchange.ofNetwork network).foldl register ⟨[], .ofNetwork network⟩

/-- The exchange of a name, in any case of the ASCII letters. -/
def find? (registry : Registry) (name : String) : Option Exchange :=
  registry.exchanges.find? (·.key = name.toLower)

def keys (registry : Registry) : List String := registry.exchanges.map Exchange.key

end Registry
end SwapPlan
