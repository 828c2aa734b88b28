import ClientAuth.CommandLine.Uri
import ClientAuth.Configuration.Canonical
import ClientAuth.Configuration.Negotiation
import ClientAuth.Configuration.Shared
import ClientAuth.Inspect
import ClientAuth.Serial.Error
import ClientAuth.Proofs.Removal
import ClientAuth.Proofs.Derivation
import ClientAuth.Proofs.Lawful
import ClientAuth.Proofs.Reachability
import ClientAuth.Proofs.WellFormed
import ClientAuth.Proofs.Delivery
import ClientAuth.Proofs.Effective
import ClientAuth.Proofs.Merge
import ClientAuth.Proofs.Observation
import ClientAuth.Proofs.Comparison
import ClientAuth.Proofs.Congruence
import ClientAuth.Proofs.Interchange
import ClientAuth.Proofs.Acquisition
import ClientAuth.Proofs.Frame
import ClientAuth.Proofs.Distinction
import ClientAuth.Proofs.Overlay
import ClientAuth.Proofs.Request
import ClientAuth.Proofs.Supply
import ClientAuth.Proofs.Forwarding
import ClientAuth.Proofs.Mechanisms
import ClientAuth.Proofs.Locality
import ClientAuth.Proofs.Rulings
import ClientAuth.Proofs.Reordering
import ClientAuth.Proofs.Cancellation
import ClientAuth.Proofs.Answering
import ClientAuth.Proofs.Selection
import ClientAuth.Proofs.Hiding
import ClientAuth.Proofs.Relay
import ClientAuth.Proofs.Layering
import ClientAuth.Proofs.KindSafety
import ClientAuth.Proofs.Offering
import ClientAuth.Proofs.Decoration
import ClientAuth.Proofs.Contract
import ClientAuth.Proofs.Searching
import ClientAuth.Proofs.ProviderLookup
import ClientAuth.Proofs.BaseFactory
import ClientAuth.Proofs.Secrecy
import ClientAuth.Proofs.Survival
import ClientAuth.Proofs.Renaming
import ClientAuth.Proofs.LatestSpecs
import ClientAuth.Proofs.Grouping
import ClientAuth.Proofs.CredentialMap
