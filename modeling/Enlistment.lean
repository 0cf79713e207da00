import Enlistment.Main
import Enlistment.Objects
import Enlistment.Proofs.Lock.Availability
import Enlistment.Proofs.Lock.Session
import Enlistment.Proofs.Lock.Watching
import Enlistment.Proofs.ModifiedPaths.Mirror
import Enlistment.Proofs.ModifiedPaths.Backing
import Enlistment.Proofs.ModifiedPaths.Order
import Enlistment.Proofs.Mount.Agreement
import Enlistment.Proofs.Mount.CutShort
import Enlistment.Proofs.Mount.Drained
import Enlistment.Proofs.Mount.Gate
import Enlistment.Proofs.Mount.Provenance
import Enlistment.Proofs.Mount.Recovery
import Enlistment.Proofs.Placeholder.FoldedMap
import Enlistment.Proofs.Mount.MessageStream
import Enlistment.Proofs.ModifiedPaths.Subsumption
import Enlistment.Proofs.Mount.Subsumption
import Enlistment.Proofs.Mount.Queueing
import Enlistment.Proofs.Mount.Startup
import Enlistment.Proofs.Mount.AnswerSize
import Enlistment.Proofs.ModifiedPaths.Below
import Enlistment.Proofs.ModifiedPaths.Removal
import Enlistment.Proofs.Path.AsciiCase
import Enlistment.Proofs.Task.Vacated
import Enlistment.Proofs.Task.Log
import Enlistment.Proofs.Control.RoundTrip
import Enlistment.Proofs.Mount.Rejection
import Enlistment.Proofs.Mount.Events
import Enlistment.Proofs.Store.Accounting
import Enlistment.Proofs.Mount.ObjectRequests
import Enlistment.Proofs.Objects.Saving
import Enlistment.Proofs.Cli.Overriding
