import OsdMigration.Json.Printer
import OsdMigration.Json.Patch
import OsdMigration.Ceph.Status.Reader
import OsdMigration.Ceph.Verdict
import OsdMigration.Ceph.Removability
import OsdMigration.Ceph.StorageSpec
import OsdMigration.Settings.Json
import OsdMigration.Settings.Yaml
import OsdMigration.Cluster.Selector
import OsdMigration.Cluster.Object.Codec
import OsdMigration.Cluster.Request
import OsdMigration.Procedure.Run
import OsdMigration.Wait.Scale
import OsdMigration.Toolbox
import OsdMigration.Migration
import OsdMigration.Rehearsal
import OsdMigration.ApiServer.Answer
import OsdMigration.Display.Terminal
import OsdMigration.Display.Transcript
import OsdMigration.About
import OsdMigration.Rehearsal.Pacing
import OsdMigration.Procedure.Lemmas
import OsdMigration.Main
import OsdMigration.NameMap.Lemmas
import OsdMigration.Proofs.Course.Basic
import OsdMigration.Proofs.Course.Job
import OsdMigration.Proofs.Course.Always
import OsdMigration.Proofs.Course.Invariant
import OsdMigration.Proofs.Course.Runs
import OsdMigration.Proofs.Course.Smooth
import OsdMigration.Proofs.Requests
import OsdMigration.Proofs.Commands
import OsdMigration.Proofs.Wait
import OsdMigration.Proofs.Numeral
import OsdMigration.Proofs.Reports
import OsdMigration.Proofs.Inventory
import OsdMigration.Proofs.Removal.Steps
import OsdMigration.Proofs.Removal.Stages
import OsdMigration.Proofs.Removal.Gate
import OsdMigration.Proofs.Removal.Changes
import OsdMigration.Proofs.Removal.Order
import OsdMigration.Proofs.Removal.Obliging
import OsdMigration.Proofs.Removal.DownWait
import OsdMigration.Proofs.Cluster.Selector
import OsdMigration.Proofs.Cluster.Scaling
import OsdMigration.Proofs.MiniCluster.Pods
import OsdMigration.Proofs.MiniCluster.Standing
import OsdMigration.Proofs.MiniCluster.Operations
import OsdMigration.Proofs.Resumption.Serving
import OsdMigration.Proofs.Resumption.Faults
import OsdMigration.Proofs.Resumption.Success
import OsdMigration.Proofs.Resumption.Layout
import OsdMigration.Proofs.Resumption
import OsdMigration.Proofs.Phrases
import OsdMigration.Proofs.Phrases.Reading
import OsdMigration.Proofs.Answers
import OsdMigration.Proofs.HealthWait
import OsdMigration.Proofs.Gates
import OsdMigration.Proofs.Course.Times
import OsdMigration.Proofs.Course.Guarded
import OsdMigration.Proofs.Course.Passing
import OsdMigration.Proofs.Course.Composing
import OsdMigration.Proofs.Course.Crashes
import OsdMigration.Proofs.Course.Patience
import OsdMigration.Proofs.Cancellation
import OsdMigration.Proofs.Number.Shortest
import OsdMigration.Proofs.Json.Numeral
import OsdMigration.Proofs.Json.Decimal
import OsdMigration.Proofs.Json.RoundTrip
import OsdMigration.Proofs.MiniCluster.Report
import OsdMigration.Proofs.MiniCluster.Owner
import OsdMigration.Proofs.MiniCluster.Running
import OsdMigration.Proofs.MiniCluster.Arrival
import OsdMigration.Proofs.MiniCluster.Departure
import OsdMigration.Proofs.Completion.Calm
import OsdMigration.Proofs.Completion.Commands
import OsdMigration.Proofs.Completion.Removals
import OsdMigration.Proofs.Json.Members
import OsdMigration.Proofs.MiniCluster.Alone
import OsdMigration.Proofs.BlockDevices
import OsdMigration.Proofs.Completion.Provision
import OsdMigration.Proofs.Completion.Assembly
import OsdMigration.Proofs.Completion
import OsdMigration.Proofs.Nodes
import OsdMigration.Proofs.Survey
import OsdMigration.Proofs.Removal.Listing
import OsdMigration.Proofs.Removal.Repeats
import OsdMigration.Proofs.Budget
import OsdMigration.Proofs.Refusal
import OsdMigration.Proofs.SolePod
import OsdMigration.Proofs.Escalation
import OsdMigration.Proofs.Visible
import OsdMigration.Proofs.Summary
import OsdMigration.Proofs.Watch.Basic
import OsdMigration.Proofs.Watch.Question
import OsdMigration.Proofs.Watch.Health
import OsdMigration.Proofs.Watch.OneShot
import OsdMigration.Proofs.Watch.Removability
import OsdMigration.Proofs.Watch.Scale
import OsdMigration.Proofs.Watch.Asked
import OsdMigration.Proofs.Watch.Deadline
import OsdMigration.Proofs.Course.Bound
import OsdMigration.Proofs.Json.Record
import OsdMigration.Proofs.Verdict
import OsdMigration.Proofs.MiniCluster.Newcomer
import OsdMigration.Proofs.ToolboxStart
import OsdMigration.Proofs.ToolboxReady
import OsdMigration.Proofs.Display.Screen
import OsdMigration.Proofs.ExitCode
import OsdMigration.Proofs.Settings.Overlay
import OsdMigration.Proofs.StorageSpec
import OsdMigration.Proofs.GroupCounts
import OsdMigration.Proofs.MiniCluster.Convergence
import OsdMigration.Proofs.WorkList
import OsdMigration.Proofs.Course.Cut
import OsdMigration.Proofs.Pacing
import OsdMigration.Proofs.Budget.History
import OsdMigration.Proofs.MiniCluster.Selection
