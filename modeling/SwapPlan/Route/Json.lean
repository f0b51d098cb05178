import SwapPlan.Json.Reading
import SwapPlan.Route
/-!
# Routes as JSON

Reading and writing of routes.  A step is an object whose field `kind` says what it is, or an array
that starts with the kind.
-/
set_option autoImplicit false

namespace SwapPlan

open Json (Reader ReadError Shape)

def Side.ofJson : Reader Side
  | .string name => match ofName? name with
    | some side => .ok side
    | none => .error (.unknownName name)
  | .object [(name, .null)] => match ofName? name with
    | some side => .ok side
    | none => .error (.unknownName name)
  | found => .error (.wrongKind found "the name of a side")

def Side.toJson (side : Side) : Json := .string side.name

def Hop.percentReader : Reader Nat := Reader.natural UInt32.size "u32"

def Hop.shape : Shape where
  title := "Hop"
  fields := [
    .mandatory "exchange" Reader.text,
    .mandatory "percent" percentReader,
    .mandatory "srcAmount" Reader.amount,
    .mandatory "destAmount" Reader.amount,
    .optional "data" Reader.any]
  closed := false

def Hop.ofJson : Reader Hop := fun v => do
  let ms ← shape.members v
  return {
    exchange := ← Json.require ms "exchange" Reader.text
    percent := UInt32.ofNat (← Json.require ms "percent" percentReader)
    srcAmount := ← Json.require ms "srcAmount" Reader.amount
    destAmount := ← Json.require ms "destAmount" Reader.amount
    data := ← Json.withDefault ms "data" Reader.any .null }

def Hop.toMembers (hop : Hop) : List (String × Json) := [
  ("exchange", .string hop.exchange),
  ("percent", .int hop.percent.toNat),
  ("srcAmount", .string hop.srcAmount.text),
  ("destAmount", .string hop.destAmount.text),
  ("data", hop.data)]

namespace Step

/-- Reads the rest of a step of a kind.  The fields of a step that is no hop are passed over; the
items of an array have to be as many as there are fields. -/
def ofKind (kind : String) (rest : Json) : Except ReadError Step :=
  if kind = "swap" then (Hop.ofJson rest).map swap
  else
    let step := if kind = "wrapNative" then some wrapNative
      else if kind = "unwrapNative" then some unwrapNative
      else none
    match step, rest with
    | none, _ => .error (.unknownName kind)
    | some _, .array (v :: extra) =>
      .error (.wrongLength (v :: extra).length "0 elements in sequence")
    | some step, _ => .ok step

def kinds : List String := ["swap", "wrapNative", "unwrapNative"]

/-- Reads a step.  The first kind in an object is read before a second one is refused. -/
def ofJson : Reader Step
  | .object members =>
    match Json.member? "kind" members with
    | some (.string kind) =>
      if kind ∈ kinds ∧ 1 < members.countP (·.1 = "kind") then .error (.duplicateField "kind")
      else ofKind kind (.object (members.filter (·.1 ≠ "kind")))
    | some found => .error (.wrongKind found "the kind of a step")
    | none => .error (.missingField "kind")
  | .array (.string kind :: rest) => ofKind kind (.array rest)
  | .array (found :: _) => .error (.wrongKind found "the kind of a step")
  | .array [] => .error (.missingField "kind")
  | found => .error (.wrongKind found "a step")

def toJson : Step → Json
  | swap hop => .object (("kind", .string "swap") :: hop.toMembers)
  | wrapNative => .object [("kind", .string "wrapNative")]
  | unwrapNative => .object [("kind", .string "unwrapNative")]

end Step

def Leg.shape : Shape where
  title := "Leg"
  fields := [
    .mandatory "srcToken" Reader.address,
    .mandatory "destToken" Reader.address,
    .mandatory "steps" (Reader.list Step.ofJson)]
  closed := false

def Leg.ofJson : Reader Leg := fun v => do
  let ms ← shape.members v
  return {
    srcToken := ← Json.require ms "srcToken" Reader.address
    destToken := ← Json.require ms "destToken" Reader.address
    steps := ← Json.require ms "steps" (Reader.list Step.ofJson) }

def Leg.toMembers (leg : Leg) : List (String × Json) := [
  ("srcToken", .string leg.srcToken.text),
  ("destToken", .string leg.destToken.text),
  ("steps", .array (leg.steps.map Step.toJson))]

def Leg.toJson (leg : Leg) : Json := .object leg.toMembers

namespace Route

def shape : Shape where
  title := "Route"
  fields := [
    .mandatory "side" Side.ofJson,
    .mandatory "srcToken" Reader.address,
    .mandatory "destToken" Reader.address,
    .mandatory "srcAmount" Reader.amount,
    .mandatory "destAmount" Reader.amount,
    .mandatory "legs" (Reader.list Leg.ofJson)]
  closed := false

def ofJson : Reader Route := fun v => do
  let ms ← shape.members v
  return {
    side := ← Json.require ms "side" Side.ofJson
    srcToken := ← Json.require ms "srcToken" Reader.address
    destToken := ← Json.require ms "destToken" Reader.address
    srcAmount := ← Json.require ms "srcAmount" Reader.amount
    destAmount := ← Json.require ms "destAmount" Reader.amount
    legs := ← Json.require ms "legs" (Reader.list Leg.ofJson) }

def toMembers (route : Route) : List (String × Json) := [
  ("side", route.side.toJson),
  ("srcToken", .string route.srcToken.text),
  ("destToken", .string route.destToken.text),
  ("srcAmount", .string route.srcAmount.text),
  ("destAmount", .string route.destAmount.text),
  ("legs", .array (route.legs.map Leg.toJson))]

def toJson (route : Route) : Json := .object route.toMembers

end Route
end SwapPlan
