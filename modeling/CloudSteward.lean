import CloudSteward.Json.Contents
import CloudSteward.Main
import CloudSteward.Operator.World
import CloudSteward.Proofs.Integrations.Gate
import CloudSteward.Proofs.Project.Pass
import CloudSteward.Proofs.Project.Lockout
import CloudSteward.Proofs.Json.Reading
import CloudSteward.Proofs.Json.Restoring
import CloudSteward.Proofs.Applied
import CloudSteward.Proofs.Integrations.Rest
import CloudSteward.Proofs.Project.Quiescence
import CloudSteward.Proofs.Integrations.Conservation
import CloudSteward.Proofs.Integrations.Isolation
import CloudSteward.Proofs.Login.Pass
import CloudSteward.Proofs.Login.Gate
import CloudSteward.Proofs.Cloud.Logins
import CloudSteward.Proofs.Login.History
import CloudSteward.Proofs.Integrations.Addressing
import CloudSteward.Proofs.Integrations.Calm
import CloudSteward.Proofs.Integrations.Supply
import CloudSteward.Proofs.Project.Retries
import CloudSteward.Proofs.Integrations.Balance
import CloudSteward.Proofs.Project.Rounds
import CloudSteward.Proofs.Integrations.Report
import CloudSteward.Proofs.Readiness
import CloudSteward.Proofs.Operator.Parking
import CloudSteward.Proofs.Frame
import CloudSteward.Proofs.Endpoints.Convergence
import CloudSteward.Proofs.Integrations.Repetition
import CloudSteward.Proofs.Operator.Isolation
import CloudSteward.Proofs.Integrations.ListingOrder
import CloudSteward.Proofs.Login.Convergence
import CloudSteward.Proofs.Integrations.Lifecycle
import CloudSteward.Proofs.Conditions.History
import CloudSteward.Proofs.Integrations.Drift
import CloudSteward.Proofs.Integrations.Spelling
import CloudSteward.Proofs.Integrations.RemovalOrder
import CloudSteward.Proofs.Project.Unreadable
import CloudSteward.Proofs.Operator.Fingerprint
import CloudSteward.Proofs.Http.Meaning
import CloudSteward.Proofs.Http.Paths
import CloudSteward.Proofs.FeatureIds
import CloudSteward.Proofs.Integrations.Listing
import CloudSteward.Proofs.Cloud.History
import CloudSteward.Proofs.Integrations.ClaimOrder
import CloudSteward.Proofs.Integrations.Identifiers
import CloudSteward.Proofs.Identity
