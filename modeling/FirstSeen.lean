import FirstSeen.Element
import FirstSeen.Log.Session
import FirstSeen.Proofs.Aggregate.AnySchedule
import FirstSeen.Proofs.Aggregate.AnySink
import FirstSeen.Proofs.Aggregate.FirstContext
import FirstSeen.Proofs.Aggregate.OneShot
import FirstSeen.Proofs.Aggregate.Preview
import FirstSeen.Proofs.Aggregate.SameProgram
import FirstSeen.Proofs.Settings.Layers
import FirstSeen.Proofs.Settings.Snapshot
import FirstSeen.Proofs.Settings.OneDocument
import FirstSeen.Proofs.Log.Decisive
import FirstSeen.Proofs.Log.Initialisation
import FirstSeen.Proofs.Unique.CallHistory
import FirstSeen.Proofs.Unique.EveryWay
import FirstSeen.Proofs.Log.FilterText
import FirstSeen.Proofs.Log.Severity
import FirstSeen.Proofs.Unique.Stages
import FirstSeen.Proofs.Settings.Usable
import FirstSeen.Proofs.Outcome.CodedText
import FirstSeen.Proofs.Outcome.Comparison
import FirstSeen.Proofs.Outcome.Sources
import FirstSeen.Proofs.Settings.KnownNames
import FirstSeen.Proofs.Unique.Rebuilding
import FirstSeen.Proofs.Unique.GivenKeys
import FirstSeen.Proofs.Log.ContextText
import FirstSeen.Proofs.Settings.UnknownLevel
