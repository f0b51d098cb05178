import SwapPlan.Address
import SwapPlan.Record.Instruction
/-!
# Executors and networks

Executor contracts come in three versions.  A version fixes the layout of the records that the
contract reads.

A network is what the compiler knows about a chain: the contracts it calls, the placeholder that
routes use for the native token, and default addresses of exchanges.  It is fit for use when no
contract it calls is the zero address and the placeholder is not the wrapped token
(`Network.fault?`).
-/
set_option autoImplicit false

namespace SwapPlan

inductive Executor
  | first
  | second
  | third
deriving DecidableEq

namespace Executor

def all : List Executor := [first, second, third]

def name : Executor → String
  | first => "Executor01"
  | second => "Executor02"
  | third => "Executor03"

def ofName? (name : String) : Option Executor := all.find? (·.name = name)

def layout : Executor → HeaderLayout
  | first => .basic
  | second => .basic
  | third => .multiField

theorem ofName?_name (e : Executor) : ofName? e.name = some e := by cases e <;> rfl

end Executor

structure Network where
  chainId : UInt64
  name : String
  nativeToken : Address
  wrappedNative : Address
  augustus : Address
  tokenTransferProxy : Address
  executors : AddressBook Executor
  adapters : AddressBook String
  exchanges : AddressBook String

namespace Network

def defaultNativeToken : Address := .repeated 0xEE

inductive Fault
  | zeroContract (field : String)
  | zeroExecutor (executor : Executor)
  | nativeIsWrapped
deriving DecidableEq

def Fault.message : Fault → String
  | zeroContract field => field ++ " must not be the zero address"
  | zeroExecutor executor => "executor " ++ executor.name ++ " must not be the zero address"
  | nativeIsWrapped => "native token placeholder and wrapped native token must differ"

def requiredContracts (network : Network) : List (String × Address) :=
  [("wrappedNativeTokenAddress", network.wrappedNative),
    ("augustusAddress", network.augustus),
    ("tokenTransferProxyAddress", network.tokenTransferProxy)]

def executorAddress? (network : Network) (executor : Executor) : Option Address :=
  network.executors.find? executor

/-- The first fault of a network: contracts first, then executors, then the placeholder. -/
def fault? (network : Network) : Option Fault :=
  match network.requiredContracts.find? (·.2 = .zero) with
  | some (field, _) => some (.zeroContract field)
  | none =>
    match Executor.all.find? (network.executorAddress? · = some .zero) with
    | some executor => some (.zeroExecutor executor)
    | none => if network.nativeToken = network.wrappedNative then some .nativeIsWrapped else none

/-- The default address of an exchange: that of the first entry with its name in any case of the
ASCII letters. -/
def exchangeAddress? (network : Network) (exchange : String) : Option Address :=
  (network.exchanges.entries.find? (·.1.toLower = exchange.toLower)).map (·.2)

def isNative (network : Network) (token : Address) : Bool := token = network.nativeToken

end Network
end SwapPlan
