import Acop.Guarantee.EventLog
import Acop.Guarantee.Dispatch
import Acop.Guarantee.Validation
import Acop.Guarantee.Frozen
import Acop.Guarantee.Approvals
import Acop.Guarantee.Idempotency
import Acop.Guarantee.Target
import Acop.Guarantee.Binding
import Acop.Selection.Ordered
import Acop.Guarantee.Eligibility
import Acop.Registry
import Acop.Guarantee.Lifecycle
import Acop.Store.History
import Acop.Cmdb.Laboratory
import Acop.Guarantee.FactHistory
import Acop.Guarantee.Standing
import Acop.Guarantee.RetiredClaims
import Acop.Guarantee.Inference
import Acop.Guarantee.TerminalAssets
import Acop.Guarantee.Gate
import Acop.Guarantee.Decision
import Acop.Guarantee.Visibility
import Acop.Guarantee.Deployments
import Acop.Guarantee.Citations
import Acop.Guarantee.Atomicity
import Acop.Guarantee.Paths
import Acop.Guarantee.Mentions
import Acop.Guarantee.Sensitivity
import Acop.Guarantee.Resolution
import Acop.Coding.Spans
import Acop.Guarantee.Chunking
import Acop.Guarantee.Disclosure
import Acop.Guarantee.Drift
import Acop.Cmdb.Conflicts
import Acop.Guarantee.Conflicts
import Acop.Cmdb.Listing
import Acop.Guarantee.Pagination
import Acop.Conduct.Outcome
import Acop.Guarantee.Posting
import Acop.Guarantee.Creation
import Acop.Cmdb.Transitions
import Acop.Guarantee.Attestations
import Acop.Conduct.Checks
import Acop.Guarantee.Columns
import Acop.Guarantee.Links
import Acop.Guarantee.Assertions
import Acop.Guarantee.Fusion
import Acop.Guarantee.Redaction
import Acop.Guarantee.Versions
import Acop.Cmdb.Compliance
import Acop.Cmdb.Neighbours
import Acop.Guarantee.Symmetry
import Acop.Guarantee.Override
import Acop.Guarantee.Defaults
import Acop.Guarantee.Populations
import Acop.Coding.Lines
import Acop.Guarantee.Normalisation
import Acop.Guarantee.Canonicity
import Acop.Guarantee.Hiding
import Acop.Guarantee.Isolation
import Acop.Cmdb.Soundness
import Acop.Guarantee.Closure
import Acop.Guarantee.Desired
import Acop.Guarantee.Reversion
import Acop.Guarantee.Routing
import Acop.Guarantee.Union
import Acop.Guarantee.AttemptLedger
import Acop.Guarantee.Blame
import Acop.Guarantee.Directory
import Acop.Guarantee.EdgeHistory
import Acop.Guarantee.Operators
