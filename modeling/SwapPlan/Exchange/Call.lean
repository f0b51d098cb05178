import SwapPlan.Call.Resolution
import SwapPlan.Json.Reading
import SwapPlan.Route
/-!
# Calls of exchanges

An exchange turns a swap request and its own data into a call, in three forms: for an adapter
contract, for direct execution, and for an executor that overwrites fields of the call.
-/
set_option autoImplicit false

namespace SwapPlan

open Json (Reader Shape)

structure SwapRequest where
  srcToken : Address
  destToken : Address
  srcAmount : Word
  destAmount : Word
  side : Side

structure AdapterCall where
  target : Address
  payload : Bytes
  networkFee : Word

structure DirectCall where
  approveTarget : Address
  calldata : Bytes
  target : Address
  value : Word
  networkFee : Word

structure ExecutorCall where
  needsWrap : Bool
  namesRecipient : Bool
  namesDestToken : Bool
  sendsNative : Bool
  calldata : Bytes
  target : Address
  special : Option UInt16
  layout : CallLayout

inductive ExchangeError
  | unsupportedSide (exchange : String) (side : Side)
  | invalidData (exchange : String) (reason : String)
  | missingAddress (exchange : String) (what : String)
  | abi (error : AbiError)
deriving DecidableEq

def ExchangeError.message : ExchangeError → String
  | unsupportedSide exchange side => exchange ++ " does not support " ++ side.name ++ " swaps"
  | invalidData exchange reason => "invalid exchange data for " ++ exchange ++ ": " ++ reason
  | missingAddress exchange what => "no " ++ what ++ " address configured for " ++ exchange
  | abi error => "ABI error: " ++ error.message

/-- Reads the data of a hop for an exchange; `null` reads as an object without members. -/
def readHopData {α : Type} (exchange : String) (read : Reader α) (data : Json) :
    Except ExchangeError α :=
  let v := match data with
    | .null => .object []
    | other => other
  match read v with
  | .ok a => .ok a
  | .error e => .error (.invalidData exchange e.message)

def encodeCall (f : Function) (arguments : List AbiValue) : Except ExchangeError Bytes :=
  match f.call arguments with
  | .ok bytes => .ok bytes
  | .error e => .error (.abi e)

def addressOr (exchange what : String) (given configured : Option Address) :
    Except ExchangeError Address :=
  match given.or configured with
  | some a => .ok a
  | none => .error (.missingAddress exchange what)

def addressList (path : List Address) : AbiValue := .array (path.map .address)

namespace AdapterCall

def shape : Shape where
  title := "AdapterCall"
  fields := [
    .mandatory "targetExchange" Reader.address,
    .mandatory "payload" Reader.bytes,
    .mandatory "networkFee" Reader.amount]
  closed := false

def ofJson : Reader AdapterCall := fun v => do
  let ms ← shape.members v
  return {
    target := ← Json.require ms "targetExchange" Reader.address
    payload := ← Json.require ms "payload" Reader.bytes
    networkFee := ← Json.require ms "networkFee" Reader.amount }

def toJson (call : AdapterCall) : Json := .object [
  ("targetExchange", .string call.target.text),
  ("payload", .string call.payload.hex0x),
  ("networkFee", .string call.networkFee.text)]

end AdapterCall

namespace DirectCall

def shape : Shape where
  title := "DirectCall"
  fields := [
    .mandatory "approveTarget" Reader.address,
    .mandatory "calldata" Reader.bytes,
    .mandatory "targetExchange" Reader.address,
    .mandatory "value" Reader.amount,
    .mandatory "networkFee" Reader.amount]
  closed := false

def ofJson : Reader DirectCall := fun v => do
  let ms ← shape.members v
  return {
    approveTarget := ← Json.require ms "approveTarget" Reader.address
    calldata := ← Json.require ms "calldata" Reader.bytes
    target := ← Json.require ms "targetExchange" Reader.address
    value := ← Json.require ms "value" Reader.amount
    networkFee := ← Json.require ms "networkFee" Reader.amount }

def toJson (call : DirectCall) : Json := .object [
  ("approveTarget", .string call.approveTarget.text),
  ("calldata", .string call.calldata.hex0x),
  ("targetExchange", .string call.target.text),
  ("value", .string call.value.text),
  ("networkFee", .string call.networkFee.text)]

end DirectCall
end SwapPlan
