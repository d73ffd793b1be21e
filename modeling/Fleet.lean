import Fleet.Main
import Fleet.Proofs.Config.Acceptance
import Fleet.Proofs.Config.Closure
import Fleet.Proofs.Config.Report
import Fleet.Proofs.Config.RoundTrip
import Fleet.Proofs.Config.Secrecy
import Fleet.Proofs.Context.Atomicity
import Fleet.Proofs.Context.CallTree
import Fleet.Proofs.Service.Agreement
import Fleet.Proofs.Service.Denial
import Fleet.Proofs.Service.Identity
import Fleet.Proofs.Service.Resaving
import Fleet.Proofs.Service.Spelling
import Fleet.Proofs.Service.Validators
import Fleet.Proofs.Service.Validity
import Fleet.Proofs.Session.Afterwards
import Fleet.Proofs.Session.Chronicles
import Fleet.Proofs.Session.Integrity
import Fleet.Proofs.Store.LifeCycle
import Fleet.Proofs.Sync.AllOrNothing
import Fleet.Proofs.Sync.History
import Fleet.Proofs.Sync.Splitting
import Fleet.Proofs.Url.Derivable
import Fleet.Proofs.Watch.Notices
