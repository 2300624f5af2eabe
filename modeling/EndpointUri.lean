import EndpointUri.Editor.Batch
import EndpointUri.Main
import EndpointUri.Proofs.Boundary
import EndpointUri.Proofs.RoundTrip
import EndpointUri.Proofs.Tiling
import EndpointUri.Proofs.Candidates
import EndpointUri.Proofs.RequestRuns
import EndpointUri.Proofs.Supersession
import EndpointUri.Proofs.Acceptance
import EndpointUri.Proofs.EditorEdit
import EndpointUri.Proofs.SharedLoad
import EndpointUri.Proofs.FailedLoad
import EndpointUri.Proofs.CheckedParse
import EndpointUri.Proofs.Interleaving
import EndpointUri.Proofs.Precedence
import EndpointUri.Proofs.SchemaAgreement
import EndpointUri.Proofs.CheckedCompletion
import EndpointUri.Proofs.Resolution
import EndpointUri.Proofs.CompletionMeaning
import EndpointUri.Proofs.CommandAgreement
import EndpointUri.Proofs.Narrowing
import EndpointUri.Proofs.AcceptedAgain
import EndpointUri.Proofs.DirectoryLoad
import EndpointUri.Proofs.TrackerHistory
import EndpointUri.Proofs.Appending
import EndpointUri.Proofs.PositionOrder
import EndpointUri.Proofs.DeprecationMark
import EndpointUri.Proofs.LayerMonoid
import EndpointUri.Proofs.GreatestBoundary
import EndpointUri.Proofs.BatchRuns
