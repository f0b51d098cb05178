import SwapPlan.Exchange.Registry
import SwapPlan.Plan.Error
import SwapPlan.Record.Encoding
/-!
# Compilation of routes

A plan is the records of a route's legs, one after the other.  A leg is compiled on its own: its
shares and steps are checked, each hop's exchange makes its call, and the calls are packed, between
a wrapping and an unwrapping record where the leg needs them.  The first check that fails decides
the error.
-/
set_option autoImplicit false

namespace SwapPlan

structure Plan where
  executor : Executor
  records : List Record
  approvalTarget : Address
  targetExecutor : Address

/-- The records as the executor reads them, one after the other. -/
def Plan.data (plan : Plan) : Bytes := plan.records.flatMap Record.bytes

def Plan.decode (plan : Plan) : Except DecodeError (List Instruction) :=
  decodePlan plan.executor.layout plan.data

structure Compiler where
  network : Network
  registry : Registry

def Compiler.ofNetwork (network : Network) : Compiler := ⟨network, .ofNetwork network⟩

namespace Leg

def splitTotal (leg : Leg) : Nat :=
  min (leg.hops.foldr (fun hop sum => hop.percent.toNat + sum) 0) (UInt32.size - 1)

def total? (leg : Leg) (field : AmountField) : Option Word :=
  Word.ofNat? (leg.hops.foldr (fun hop sum => (field.of hop).toNat + sum) 0)

def asksWrap (leg : Leg) : Bool := leg.steps.any Step.isWrap

def asksUnwrap (leg : Leg) : Bool := leg.steps.any Step.isUnwrap

/-- What is wrong with a step at a position in the leg.  Only the first step may wrap, only the last
may unwrap, and only on an end of the leg that is the native token. -/
def stepFault? (network : Network) (leg : Leg) (position : Nat) : Step → Option WrapFault
  | .wrapNative =>
    if position ≠ 0 then some (.wrapNotFirst position leg.steps.length)
    else if network.isNative leg.srcToken then none
    else some .wrapNotNative
  | .unwrapNative =>
    if position ≠ leg.steps.length - 1 then some (.unwrapNotLast position leg.steps.length)
    else if network.isNative leg.destToken then none
    else some .unwrapNotNative
  | .swap _ => none

def wrapFaultFrom? (network : Network) (leg : Leg) : (position : Nat) → List Step → Option WrapFault
  | _, [] => none
  | position, step :: rest =>
    (leg.stepFault? network position step).or (leg.wrapFaultFrom? network (position + 1) rest)

def wrapFault? (network : Network) (leg : Leg) : Option WrapFault :=
  leg.wrapFaultFrom? network 0 leg.steps

end Leg

namespace Route

def firstEmpty? : (position : Nat) → List Leg → Option Nat
  | _, [] => none
  | position, leg :: rest =>
    if leg.hops.isEmpty then some position else firstEmpty? (position + 1) rest

def firstBreak? : (position : Nat) → List Leg → Option RouteFault
  | position, leg :: next :: rest =>
    if leg.destToken = next.srcToken then firstBreak? (position + 1) (next :: rest)
    else some (.broken position leg.destToken next.srcToken)
  | _, _ => none

def fault? (route : Route) : Option RouteFault :=
  match route.legs.head?, route.legs.getLast? with
  | some first, some last =>
    if first.srcToken ≠ route.srcToken then
      some (.startsElsewhere first.srcToken route.srcToken)
    else if last.destToken ≠ route.destToken then
      some (.endsElsewhere last.destToken route.destToken)
    else match firstEmpty? 0 route.legs with
      | some position => some (.noHops position)
      | none => firstBreak? 0 route.legs
  | _, _ => some .noLegs

end Route

def ExecutorCall.instruction (call : ExecutorCall) (positions : Positions) (flags : Flags) :
    Instruction where
  target := call.target
  positions := positions
  special := call.special
  flags := ((flags.set .noRecipient !call.namesRecipient).set .noDestToken !call.namesDestToken).set
    .sendNative call.sendsNative
  calldata := call.calldata

/-- The record of a call.  A chained call spends what an earlier leg gained, so the amount spent has
to have a position. -/
def ExecutorCall.pack (call : ExecutorCall) (flags : Flags) (chained : Bool) (hop : Nat)
    (layout : HeaderLayout) : Except CompileError Record := do
  let positions ← (call.layout.positions call.calldata).mapError (CompileError.position hop)
  if chained && positions.fromAmount.isNone then
    .error (.position hop .missingChainedAmount)
  else
    ((call.instruction positions flags).encode layout).mapError (CompileError.encoding hop)

structure NativeEdges where
  wrap : Bool
  unwrap : Bool
deriving DecidableEq

def NativeEdges.flags (edges : NativeEdges) : Flags :=
  (Flags.empty.set .needsWrap edges.wrap).set .unwrapOutput edges.unwrap

/-- The circumstances in which a leg is compiled. -/
structure LegContext where
  side : Side
  layout : HeaderLayout
  recipient : Address
  /-- The number of legs before. -/
  leg : Nat
  /-- The number of hops before. -/
  firstHop : Nat

namespace Compiler

def hopCall (compiler : Compiler) (context : LegContext) (leg : Leg) (position : Nat) (hop : Hop) :
    Except CompileError ExecutorCall :=
  match compiler.registry.find? hop.exchange with
  | none => .error (.unknownExchange position hop.exchange)
  | some exchange =>
    (exchange.executorCall
      ⟨leg.srcToken, leg.destToken, hop.srcAmount, hop.destAmount, context.side⟩
      context.recipient hop.data).mapError (CompileError.ofExchange position hop.exchange)

def hopCalls (compiler : Compiler) (context : LegContext) (leg : Leg) :
    (position : Nat) → List Hop → Except CompileError (List ExecutorCall)
  | _, [] => .ok []
  | position, hop :: rest => do
    let call ← compiler.hopCall context leg position hop
    return call :: (← compiler.hopCalls context leg (position + 1) rest)

/-- How a leg treats the native token: as it asks for, and wrapped at a native end as soon as one of
its calls needs that.  A leg that is wrapped may not have a call that does not. -/
def nativeEdges (compiler : Compiler) (leg : Leg) (calls : List ExecutorCall) (firstHop : Nat) :
    Except CompileError NativeEdges :=
  let needed := calls.any (·.needsWrap)
  let edges : NativeEdges := {
    wrap := leg.asksWrap || (needed && compiler.network.isNative leg.srcToken)
    unwrap := leg.asksUnwrap || (needed && compiler.network.isNative leg.destToken) }
  match calls.findIdx? (!·.needsWrap) with
  | some position =>
    if edges.wrap || edges.unwrap then .error (.wrapping (firstHop + position) .mixed)
    else .ok edges
  | none => .ok edges

/-- The record that wraps the input of a leg or unwraps its output, if the leg needs it. -/
def edgeRecord (compiler : Compiler) (context : LegContext) (leg : Leg) (needed : Bool)
    (field : AmountField) (conversion : NativeWrapper.Conversion) (hop : Nat) :
    Except CompileError (List Record) :=
  if needed then do
    match leg.total? field with
    | none => .error (.amountOverflow context.leg context.firstHop field)
    | some amount =>
      let call ← (compiler.registry.wrapper.convert conversion amount).mapError
        (CompileError.ofExchange hop NativeWrapper.key)
      let record ← call.pack .empty false hop context.layout
      return [record]
  else .ok []

def hopRecords (context : LegContext) (flags : Flags) :
    (position : Nat) → List ExecutorCall → Except CompileError (List Record)
  | _, [] => .ok []
  | position, call :: rest => do
    let record ← call.pack flags (0 < context.leg) position context.layout
    return record :: (← hopRecords context flags (position + 1) rest)

def legRecords (compiler : Compiler) (context : LegContext) (leg : Leg) :
    Except CompileError (List Record) :=
  if leg.splitTotal ≠ 100 then
    .error (.split context.leg context.firstHop leg.splitTotal)
  else match leg.wrapFault? compiler.network with
    | some fault => .error (.wrapping context.firstHop fault)
    | none => do
      let calls ← compiler.hopCalls context leg context.firstHop leg.hops
      let edges ← compiler.nativeEdges leg calls context.firstHop
      let before ← compiler.edgeRecord context leg edges.wrap .srcAmount .wrap context.firstHop
      let hops ← hopRecords context edges.flags context.firstHop calls
      let after ← compiler.edgeRecord context leg edges.unwrap .destAmount .unwrap
        (context.firstHop + leg.hops.length - 1)
      return before ++ hops ++ after

def legsRecords (compiler : Compiler) : LegContext → List Leg → Except CompileError (List Record)
  | _, [] => .ok []
  | context, leg :: rest => do
    let records ← compiler.legRecords context leg
    let next := { context with
      leg := context.leg + 1
      firstHop := context.firstHop + leg.hops.length }
    return records ++ (← compiler.legsRecords next rest)

/-- The plan of a route for a version of the executor. -/
def compile (compiler : Compiler) (route : Route) (executor : Executor) :
    Except CompileError Plan :=
  match compiler.network.executorAddress? executor with
  | none => .error (.unknownExecutor executor)
  | some recipient =>
    match route.fault? with
    | some fault => .error (.route fault)
    | none => do
      let records ← compiler.legsRecords ⟨route.side, executor.layout, recipient, 0, 0⟩ route.legs
      return ⟨executor, records, compiler.network.tokenTransferProxy, recipient⟩

end Compiler
end SwapPlan
