import RestContract.Main
import RestContract.Request.Exchange
import RestContract.Route.Dispatch
import RestContract.Proofs.Percent
import RestContract.Error.Stated
import RestContract.Proofs.Template.Filling
import RestContract.Proofs.Endpoint.Extraction
import RestContract.Proofs.Template.Resolving
import RestContract.Proofs.Template.Substitution
import RestContract.Proofs.Endpoint.PathTexts
import RestContract.Proofs.Request.Url
import RestContract.Proofs.Template.Binding
import RestContract.Proofs.PathRoundTrip
import RestContract.Proofs.Number.Numeral
import RestContract.Proofs.Time.Iso
import RestContract.Proofs.Time.Calendar
import RestContract.Proofs.Number.Order
import RestContract.Proofs.InputRoundTrip
import RestContract.Proofs.Template.Overlap
import RestContract.Proofs.Route.Reachable
import RestContract.Proofs.Route.Admission
import RestContract.Proofs.Document.Auth
import RestContract.Proofs.Error.Body
import RestContract.Proofs.Route.Answers
import RestContract.Proofs.Contract.Failing
import RestContract.Proofs.Endpoint.Reading
import RestContract.Proofs.Number.Written
import RestContract.Proofs.Readable
import RestContract.Proofs.Template.Matching
import RestContract.Proofs.OmittedPath
import RestContract.Proofs.Stream.Frames
import RestContract.Proofs.Route.PathFields
import RestContract.Proofs.Endpoint.Acceptance
import RestContract.Proofs.Route.Transport
import RestContract.Proofs.Contract.Forms
import RestContract.Proofs.Contract.Groups
import RestContract.Proofs.Document.Reference
import RestContract.Proofs.Document.Loading
import RestContract.Proofs.Request.Address
import RestContract.Proofs.Route.Literal
import RestContract.Proofs.Route.Specific
import RestContract.Proofs.Document.Typed
import RestContract.Proofs.Template.Greedy
import RestContract.Proofs.Route.Mounting
import RestContract.Proofs.Handler.Operations
import RestContract.Proofs.Time.Instant
import RestContract.Proofs.Endpoint.Decoding
import RestContract.Proofs.Request.Form
import RestContract.Proofs.Request.Query
import RestContract.Proofs.Number.Grammar
import RestContract.Proofs.Stream.LineEnds
import RestContract.Proofs.Handler.Binding
import RestContract.Proofs.Document.Defaults
