import Attest.Session.Call
import Attest.Proofs.Chain.Settle
import Attest.Proofs.Subject.Settle
import Attest.Proofs.Response.Settle
import Attest.Proofs.Chain.History
import Attest.Proofs.Chain.Frozen
import Attest.Proofs.Response.Stream
import Attest.Proofs.Response.ReadOnce
import Attest.Proofs.Response.Recut
import Attest.Proofs.Subject.Path
import Attest.Proofs.Session.Deed
import Attest.Proofs.Response.Plan
import Attest.Proofs.Response.Reset
import Attest.Proofs.Reporter.Echo
import Attest.Proofs.Reporter.Transparent
import Attest.Proofs.Json.Leaves
import Attest.Proofs.Session.Isolated
import Attest.Proofs.Text.Utf8
import Attest.Proofs.Json.RoundTrip
import Attest.Proofs.Response.Document
import Attest.Proofs.Text.Split
import Attest.Proofs.Http.MediaType
import Attest.Proofs.Http.Charset
import Attest.Proofs.Http.Spacing
import Attest.Proofs.Http.Parameters
import Attest.Proofs.Response.Outcome
import Attest.Proofs.Response.ContentType
import Attest.Proofs.Response.Decoded
import Attest.Proofs.Http.Canonical
import Attest.Proofs.Response.Respelled
import Attest.Proofs.Http.Decoding
import Attest.Proofs.Text.Bytewise
import Attest.Proofs.Response.Gate
import Attest.Proofs.Subject.Calls
import Attest.Proofs.Json.Equality
import Attest.Proofs.Subject.Equality
import Attest.Proofs.Response.Views
import Attest.Proofs.Response.Members
import Attest.Proofs.Http.Fields
import Attest.Proofs.Http.SameFields
import Attest.Proofs.Subject.SameHeaders
import Attest.Proofs.Response.Lookups
import Attest.Proofs.Chain.Placeholder
import Attest.Proofs.Subject.Excerpt
import Attest.Proofs.Response.Limit
import Attest.Proofs.Response.NoContent
import Attest.Proofs.Chain.Given
import Attest.Proofs.Config.Paths
import Attest.Proofs.Config.Selection
import Attest.Proofs.Json.Numeral
import Attest.Proofs.Json.Skipped
import Attest.Proofs.Config.RoundTrip
import Attest.Proofs.Json.Unambiguous
import Attest.Proofs.Subject.Mismatch
import Attest.Proofs.Text.LowerCase
import Attest.Proofs.Subject.EqualFold
import Attest.Proofs.Subject.Absent
import Attest.Proofs.Text.Cut
import Attest.Proofs.Response.Shortened
import Attest.Proofs.Text.Lines
import Attest.Proofs.Text.Quoted
import Attest.Proofs.Subject.StringMismatch
import Attest.Proofs.Response.Beyond
import Attest.Proofs.Console.Layout
