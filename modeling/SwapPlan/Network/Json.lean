import SwapPlan.Json.Document
import SwapPlan.Json.Reading
import SwapPlan.Network
/-!
# Networks as JSON

Reading and writing of networks.  Written networks have all nine fields; read ones may leave out the
placeholder and the three address books.
-/
set_option autoImplicit false

namespace SwapPlan.Network

open Json (Reader ReadError Field Shape)

def bookReader {κ : Type} [DecidableEq κ] (key? : String → Option κ) :
    Reader (AddressBook κ)
  | .object members => do
    let entries ← members.mapM fun (name, v) => do
      match key? name with
      | some key => return (key, ← Reader.address v)
      | none => throw (.unknownName name)
    return .ofList entries
  | found => .error (.wrongKind found "a map")

def shape : Shape where
  title := "Network"
  fields := [
    .mandatory "network" (Reader.natural UInt64.size "u64"),
    .mandatory "networkName" Reader.text,
    .optional "nativeTokenAddress" Reader.address,
    .mandatory "wrappedNativeTokenAddress" Reader.address,
    .mandatory "augustusAddress" Reader.address,
    .mandatory "tokenTransferProxyAddress" Reader.address,
    .optional "executorsAddresses" (bookReader Executor.ofName?),
    .optional "adapterAddresses" (bookReader some),
    .optional "exchangeAddresses" (bookReader some)]
  closed := false

def ofJson : Reader Network := fun v => do
  let ms ← shape.members v
  return {
    chainId := UInt64.ofNat (← Json.require ms "network" (Reader.natural UInt64.size "u64"))
    name := ← Json.require ms "networkName" Reader.text
    nativeToken := ← Json.withDefault ms "nativeTokenAddress" Reader.address defaultNativeToken
    wrappedNative := ← Json.require ms "wrappedNativeTokenAddress" Reader.address
    augustus := ← Json.require ms "augustusAddress" Reader.address
    tokenTransferProxy := ← Json.require ms "tokenTransferProxyAddress" Reader.address
    executors := ←
      Json.withDefault ms "executorsAddresses" (bookReader Executor.ofName?) .empty
    adapters := ← Json.withDefault ms "adapterAddresses" (bookReader some) .empty
    exchanges := ← Json.withDefault ms "exchangeAddresses" (bookReader some) .empty }

def bookToJson {κ : Type} (name : κ → String) (book : AddressBook κ) : Json :=
  .object (book.entries.map fun (key, a) => (name key, .string a.text))

def toMembers (network : Network) : List (String × Json) := [
  ("network", .int network.chainId.toNat),
  ("networkName", .string network.name),
  ("nativeTokenAddress", .string network.nativeToken.text),
  ("wrappedNativeTokenAddress", .string network.wrappedNative.text),
  ("augustusAddress", .string network.augustus.text),
  ("tokenTransferProxyAddress", .string network.tokenTransferProxy.text),
  ("executorsAddresses", bookToJson Executor.name network.executors),
  ("adapterAddresses", bookToJson (fun name => name) network.adapters),
  ("exchangeAddresses", bookToJson (fun name => name) network.exchanges)]

def toJson (network : Network) : Json := .object network.toMembers

inductive TextError
  | malformed
  | unfit (fault : Fault)
deriving DecidableEq

def TextError.message : TextError → String
  | malformed => "Failed to parse network config from JSON"
  | unfit fault => fault.message

def checked (network : Network) : Except TextError Network :=
  match network.fault? with
  | some fault => .error (.unfit fault)
  | none => .ok network

/-- Reads a network that is fit for use out of a text.  Fields that networks do not have are passed
over unread. -/
def ofText (text : String) : Except TextError Network := do
  let some document := Json.Document.ofText? text | throw .malformed
  let some v := document.restrict? (shape.fields.map (·.name)) | throw .malformed
  match ofJson v with
  | .ok network => network.checked
  | .error _ => throw .malformed

inductive FileContent
  | absent
  | present (bytes : Bytes)

inductive FileError
  | absent (path : String)
  | notText (path : String)
  | refused (path : String) (cause : TextError)
deriving DecidableEq

namespace FileError

def message : FileError → String
  | absent path => "Failed to read network config file: " ++ path
  | notText path => "Failed to read network config file: " ++ path
  | refused path _ => "Failed to load network config: " ++ path

def cause : FileError → String
  | absent _ => "No such file or directory (os error 2)"
  | notText _ => "stream did not contain valid UTF-8"
  | refused _ cause => cause.message

end FileError

def ofFile (path : String) : FileContent → Except FileError Network
  | .absent => .error (.absent path)
  | .present bytes =>
    match bytes.text? with
    | none => .error (.notText path)
    | some text =>
      match ofText text with
      | .ok network => .ok network
      | .error cause => .error (.refused path cause)

end SwapPlan.Network
