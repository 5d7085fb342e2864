import RolloutWatch.Drive
import RolloutWatch.Identifier.Json
import RolloutWatch.Proofs.Duration.Overrun
import RolloutWatch.Proofs.Ledger.Feed
import RolloutWatch.Proofs.Settings.Breakdown
import RolloutWatch.Proofs.Settings.Capacity
import RolloutWatch.Proofs.Settings.Guards
import RolloutWatch.Proofs.Settings.Reading
import RolloutWatch.Proofs.Watcher.Acting
import RolloutWatch.Proofs.Watcher.Closing
import RolloutWatch.Proofs.Watcher.Collecting
import RolloutWatch.Proofs.Watcher.Completion
import RolloutWatch.Proofs.Watcher.Draining
import RolloutWatch.Proofs.Watcher.Driving
import RolloutWatch.Proofs.Watcher.Entering
import RolloutWatch.Proofs.Watcher.Erasure
import RolloutWatch.Proofs.Watcher.Fanout
import RolloutWatch.Proofs.Watcher.History
import RolloutWatch.Proofs.Watcher.Independence
import RolloutWatch.Proofs.Watcher.Losing
import RolloutWatch.Proofs.Watcher.Missing
import RolloutWatch.Proofs.Watcher.Polling
import RolloutWatch.Proofs.Watcher.Registration
import RolloutWatch.Proofs.Watcher.Reporting
import RolloutWatch.Proofs.Watcher.Restart
import RolloutWatch.Proofs.Watcher.Rounds
import RolloutWatch.Proofs.Watcher.Sending
import RolloutWatch.Proofs.Watcher.Soundness
import RolloutWatch.Proofs.TaskDefinition.Grammar
import RolloutWatch.Settings.File
import RolloutWatch.Snapshot.Json
import RolloutWatch.Target.Text
import RolloutWatch.Proofs.Ledger.Fresh
import RolloutWatch.Proofs.Gate.Sessions
import RolloutWatch.Proofs.Watcher.Observing
import RolloutWatch.Proofs.Yaml.Node
import RolloutWatch.Proofs.Yaml.Nesting
import RolloutWatch.Proofs.Settings.Entries
import RolloutWatch.Proofs.Settings.Acceptance
import RolloutWatch.Proofs.Identifier.Json
import RolloutWatch.Proofs.Keywords
import RolloutWatch.Proofs.Service.Causes
import RolloutWatch.Proofs.Snapshot.Reading
import RolloutWatch.Proofs.Watcher.Standing
import RolloutWatch.Proofs.Ledger.Texts
