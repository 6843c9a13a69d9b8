import Harness.Proofs.Authority
import Harness.Proofs.Caps
import Harness.Proofs.Readiness
import Harness.Proofs.Recovery
import Harness.Proofs.Rejections
import Harness.Proofs.ProductBudget
import Harness.Proofs.CodexBudget
import Harness.Proofs.DelegatedAttempt
import Harness.Proofs.CycleChecks
import Harness.Proofs.EffectOutcomes
import Harness.Proofs.RweBudget
import Harness.Proofs.ToolAuthorization
import Harness.Proofs.BudgetPause
import Harness.Proofs.Backpressure
import Harness.Proofs.SchedulerWorkers
import Harness.Proofs.ConcurrentBatches
import Harness.Proofs.MutationReplay
import Harness.Proofs.MutationCap
import Harness.Proofs.GraphQueries
import Harness.Proofs.WorkflowEngine
import Harness.Proofs.WorkingSet
import Harness.Proofs.Redaction
