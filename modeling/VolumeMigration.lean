import VolumeMigration.Engine.Rehearsal
import VolumeMigration.Main
import VolumeMigration.Progress.Tail
import VolumeMigration.Ssh.Container
import VolumeMigration.Proofs.Law
import VolumeMigration.Proofs.Sound
import VolumeMigration.Proofs.Removal
import VolumeMigration.Proofs.Terms
import VolumeMigration.Proofs.Recoverable
import VolumeMigration.Proofs.Conduct
import VolumeMigration.Proofs.Attempts
import VolumeMigration.Proofs.Idle
import VolumeMigration.Proofs.Loop
import VolumeMigration.Proofs.Releases
import VolumeMigration.Proofs.Cancellation
import VolumeMigration.Proofs.Gate
import VolumeMigration.Proofs.SharedNode
import VolumeMigration.Proofs.ShellWords
import VolumeMigration.Proofs.CommandWords
import VolumeMigration.Proofs.Placement
import VolumeMigration.Proofs.Handover
import VolumeMigration.Proofs.TailProtocol
import VolumeMigration.Proofs.CanonicalPaths
import VolumeMigration.Proofs.HostForms
import VolumeMigration.Proofs.RemoteEndpoint
import VolumeMigration.Proofs.SharedClient
import VolumeMigration.Proofs.Rounds
import VolumeMigration.Proofs.Steps
import VolumeMigration.Proofs.Forgetting
import VolumeMigration.Proofs.Perseverance
import VolumeMigration.Proofs.Procedure
import VolumeMigration.Proofs.Compliance
import VolumeMigration.Proofs.KeyContainer
import VolumeMigration.Proofs.KeySecrecy
import VolumeMigration.Proofs.BarCourse
import VolumeMigration.Proofs.Replays
import VolumeMigration.Proofs.ProgressGrammar
import VolumeMigration.Proofs.WireSequences
import VolumeMigration.Proofs.Classification
import VolumeMigration.Proofs.NodeAddresses
import VolumeMigration.Proofs.Reopenings
import VolumeMigration.Proofs.Declining
import VolumeMigration.Proofs.Invocations
import VolumeMigration.Proofs.StableIdentity
import VolumeMigration.Proofs.Acquisition
import VolumeMigration.Proofs.ArmourForm
import VolumeMigration.Proofs.AddressReader
import VolumeMigration.Proofs.Deadlines
import VolumeMigration.Proofs.Yaml.RoundTrip
