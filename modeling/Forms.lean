import Forms.Main
import Forms.NodeId
import Forms.Proofs.Acceptance
import Forms.Proofs.Addressing
import Forms.Proofs.Agreement.Integers
import Forms.Proofs.Caching
import Forms.Proofs.ConfiguredValues
import Forms.Proofs.Counting
import Forms.Proofs.Export
import Forms.Proofs.Fetching
import Forms.Proofs.Files.Deriving
import Forms.Proofs.Files.Keeping
import Forms.Proofs.Flattening
import Forms.Proofs.Generating
import Forms.Proofs.Grouping
import Forms.Proofs.Identifiers
import Forms.Proofs.KeptRules
import Forms.Proofs.LengthRules
import Forms.Proofs.Lossless
import Forms.Proofs.OlderNames
import Forms.Proofs.Ordering
import Forms.Proofs.Pattern.Email
import Forms.Proofs.Preserving
import Forms.Proofs.References
import Forms.Proofs.Remembering
import Forms.Proofs.Repatching
import Forms.Proofs.Revision
import Forms.Proofs.Searching
import Forms.Proofs.Seeding
import Forms.Proofs.Signatures
import Forms.Proofs.Submission
import Forms.Proofs.Undoing
import Forms.Proofs.Visibility
import Forms.Schema.Diagnostics
import Forms.Schema.Edit
