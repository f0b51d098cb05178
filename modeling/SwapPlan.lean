import SwapPlan.Abi.Cache
import SwapPlan.Json.Printer
import SwapPlan.Network.Json
import SwapPlan.Plan.Compilation
import SwapPlan.Proofs.Call.Independence
import SwapPlan.Proofs.Call.Soundness
import SwapPlan.Proofs.Exchange.Amounts
import SwapPlan.Proofs.Exchange.Caching
import SwapPlan.Proofs.Exchange.Contracts
import SwapPlan.Proofs.Exchange.DirectCalls
import SwapPlan.Proofs.Exchange.GemAmounts
import SwapPlan.Proofs.Exchange.Notation
import SwapPlan.Proofs.Exchange.SourceTokens
import SwapPlan.Proofs.Network.Ordering
import SwapPlan.Proofs.Network.Written
import SwapPlan.Proofs.Plan.Acceptance
import SwapPlan.Proofs.Plan.Amounts
import SwapPlan.Proofs.Plan.Blame
import SwapPlan.Proofs.Plan.Concatenation
import SwapPlan.Proofs.Plan.Directives
import SwapPlan.Proofs.Plan.LateFailures
import SwapPlan.Proofs.Plan.Layouts
import SwapPlan.Proofs.Plan.Patching
import SwapPlan.Proofs.Plan.Reordering
import SwapPlan.Proofs.Plan.SourceTokens
import SwapPlan.Proofs.Plan.Spelling
import SwapPlan.Proofs.Plan.Targets
import SwapPlan.Proofs.Record.Canonical
import SwapPlan.Proofs.Record.WellFormed
import SwapPlan.Proofs.Route.RoundTrip
import SwapPlan.Route.Json
