import AgentHarness.ExternalEffect.Lemmas.Interleaving
import AgentHarness.ChannelSessionKey.Stability
import AgentHarness.RuntimeQueue.Lemmas.Fifo
import AgentHarness.FileLock.Exclusion
import AgentHarness.OperationPlan.Lemmas.Logs
import AgentHarness.RuntimeQueue.Lemmas.Refresh
import AgentHarness.RuntimeQueue.Lemmas.Evidence
import AgentHarness.RuntimeQueue.Lemmas.Working
import AgentHarness.RuntimeQueue.Lemmas.Fence
import AgentHarness.WorkerStore.Lemmas.Limits
import AgentHarness.Coordinator.Lemmas.Omission
import AgentHarness.Coordinator.Lemmas.Tokens
import AgentHarness.Coordinator.Lemmas.Identity
import AgentHarness.CronScheduler.Lemmas.Limit
import AgentHarness.CronScheduler.Lemmas.Malformed
import AgentHarness.Budget.Lemmas.Race
import AgentHarness.ChannelDelivery.Lemmas.Planned
import AgentHarness.SessionTransition.Lemmas.Races
import AgentHarness.GoalLineage.Lemmas.Final
import AgentHarness.RuntimeQueue.Lemmas.ReceiptSummary
import AgentHarness.RuntimeQueue.Lemmas.PendingRefines
import AgentHarness.AgentProgress.Lemmas.Skipped
import AgentHarness.CronScheduler.Lemmas.Fields
import AgentHarness.TaskTransition.DrainMarker
import AgentHarness.WorkerStore.RuntimeSummary
import AgentHarness.Memory.Stability
import AgentHarness.Memory.Member
import AgentHarness.Wake.Interleaving
import AgentHarness.WorkerStore.TornQueue
import AgentHarness.CronScheduler.Lemmas.Slots
import AgentHarness.CronScheduler.Lemmas.Rejection
import AgentHarness.CronScheduler.Lemmas.ScriptPath
import AgentHarness.CronScheduler.Lemmas.Identity
import AgentHarness.CronRuns.Lemmas.Report
import AgentHarness.WorkerStore.Lemmas.Conserving
import AgentHarness.GoalTransition.Lemmas
