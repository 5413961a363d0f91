import Provisioner.Api.Recorder
import Provisioner.Api.StatusWriter
import Provisioner.Controller.Schedule
import Provisioner.Json.Parser
import Provisioner.Json.Printer
import Provisioner.Limiter.Session
import Provisioner.Main
import Provisioner.Proofs.Controller.AtMostOnce
import Provisioner.Proofs.Controller.Coalescing
import Provisioner.Proofs.Controller.Convergence
import Provisioner.Proofs.Controller.Deletion
import Provisioner.Proofs.Controller.Exclusion
import Provisioner.Proofs.Controller.Failures
import Provisioner.Proofs.Controller.Ownership
import Provisioner.Proofs.Controller.Readiness
import Provisioner.Proofs.Controller.Shutdown
import Provisioner.Proofs.Controller.Survival
import Provisioner.Proofs.Limiter.Backoff
import Provisioner.Proofs.Limiter.Conformance
import Provisioner.Proofs.Queue.Conservation
import Provisioner.Proofs.Queue.Finality
import Provisioner.Proofs.Queue.Turns
import Provisioner.Proofs.Reconcile.Admission
import Provisioner.Proofs.Reconcile.Effects
import Provisioner.Proofs.Reconcile.Retries
import Provisioner.Proofs.Reconcile.RoundTrip
import Provisioner.Proofs.Reconcile.Secrecy
import Provisioner.Proofs.Registry.Races
import Provisioner.Proofs.Resource.Forms
import Provisioner.Proofs.Sql.Execution
import Provisioner.Proofs.Sql.Rendering
import Provisioner.Proofs.Watch.Deletions
import Provisioner.Proofs.Watch.Replay
import Provisioner.Proofs.Watch.Resolution
import Provisioner.Queue.Session
import Provisioner.Resource.Decode
import Provisioner.Resource.Encode
import Provisioner.Resource.Manifest
import Provisioner.Sql.Pool
import Provisioner.Watch.Client
