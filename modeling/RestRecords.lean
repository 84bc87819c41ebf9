import RestRecords.Binding.Bind
import RestRecords.Binding.Coerce
import RestRecords.Binding.Default
import RestRecords.Client.Basic
import RestRecords.Client.Call
import RestRecords.Client.Credentials
import RestRecords.Client.Execution
import RestRecords.Client.Pacer
import RestRecords.Client.Providers
import RestRecords.Client.RequestOptions
import RestRecords.Client.RetryPolicy
import RestRecords.Client.Session
import RestRecords.Client.Unconnected
import RestRecords.Collection
import RestRecords.Collection.Search
import RestRecords.Contact
import RestRecords.Endpoint
import RestRecords.Error
import RestRecords.Event
import RestRecords.Http.Headers
import RestRecords.Http.RateLimit
import RestRecords.Http.Status
import RestRecords.Json.Basic
import RestRecords.Json.Reader
import RestRecords.Json.Writer
import RestRecords.Number.Binary64
import RestRecords.Number.Decimal
import RestRecords.Number.Scaled
import RestRecords.Number.Shortest
import RestRecords.Path
import RestRecords.Pattern.Automaton
import RestRecords.Pattern.Basic
import RestRecords.Pattern.Build
import RestRecords.Pattern.ByteRanges
import RestRecords.Pattern.Class
import RestRecords.Pattern.Escape
import RestRecords.Pattern.Flags
import RestRecords.Pattern.Limit
import RestRecords.Pattern.Places
import RestRecords.Pattern.Property
import RestRecords.Pattern.Reader
import RestRecords.Record
import RestRecords.Schema.Catalog
import RestRecords.Schema.Kind
import RestRecords.Text.Age
import RestRecords.Text.Base64
import RestRecords.Text.Blank
import RestRecords.Text.Boundary
import RestRecords.Text.CaseFold
import RestRecords.Text.Category
import RestRecords.Text.CharSet
import RestRecords.Text.Decomposition
import RestRecords.Text.Direction
import RestRecords.Text.Joining
import RestRecords.Text.Normal
import RestRecords.Text.Numeral
import RestRecords.Text.Property.Derived
import RestRecords.Text.Property.Listed
import RestRecords.Text.Quoted
import RestRecords.Text.Runs
import RestRecords.Text.Script
import RestRecords.Text.Split
import RestRecords.Time.Calendar
import RestRecords.Time.DateTime
import RestRecords.Time.DateTimeReader
import RestRecords.Time.Duration
import RestRecords.Time.HttpDate
import RestRecords.Url.Basic
import RestRecords.Url.Domain
import RestRecords.Url.Fault
import RestRecords.Url.Host
import RestRecords.Url.Ipv4
import RestRecords.Url.Ipv6
import RestRecords.Url.Percent
import RestRecords.Url.Punycode
import RestRecords.Url.Reader
import RestRecords.Url.Route
import RestRecords.Validation
import RestRecords.Value.EnumValue
import RestRecords.Value.FieldValue
import RestRecords.Value.Mapping
import RestRecords.Value.NamedValue
import RestRecords.Proofs.Text.Numerals
import RestRecords.Proofs.Text.PathText
import RestRecords.Proofs.Time.DateTimeText
import RestRecords.Proofs.Binding.Instances
import RestRecords.Proofs.Binding.Representation
import RestRecords.Proofs.Binding.StoredForm
import RestRecords.Proofs.Binding.RoundTrip
import RestRecords.Proofs.Binding.Update
import RestRecords.Proofs.Client.Attempts
import RestRecords.Proofs.Client.Retry
import RestRecords.Proofs.Client.Pacing
import RestRecords.Proofs.Validation.Breaches
import RestRecords.Proofs.Validation.Places
import RestRecords.Proofs.Client.Fleet
import RestRecords.Proofs.Binding.Faults
import RestRecords.Proofs.Time.HttpDates
import RestRecords.Proofs.Client.Hints
import RestRecords.Proofs.Binding.Collections
import RestRecords.Proofs.Client.Timeline
import RestRecords.Proofs.Json.Numbers
import RestRecords.Proofs.Json.ReadBack
import RestRecords.Proofs.Validation.Stored
import RestRecords.Proofs.Binding.TextRoundTrip
import RestRecords.Proofs.Client.Pauses
import RestRecords.Proofs.Binding.DateTimes
import RestRecords.Proofs.Binding.Merging
import RestRecords.Proofs.Client.Layers
import RestRecords.Proofs.Number.Rounding
import RestRecords.Proofs.Collection.IntegerSearch
import RestRecords.Proofs.Binding.Elements
import RestRecords.Proofs.Text.Grouping
import RestRecords.Proofs.Number.Decimals
import RestRecords.Proofs.Binding.Notations
import RestRecords.Proofs.Binding.Signs
import RestRecords.Proofs.Value.NormalForms
import RestRecords.Proofs.Collection.Comparisons
import RestRecords.Proofs.Collection.TextSearch
import RestRecords.Proofs.Schema.Cycles
import RestRecords.Proofs.Binding.Endings
import RestRecords.Proofs.Value.Equality
import RestRecords.Proofs.Client.Log
import RestRecords.Proofs.Client.Secrets
import RestRecords.Proofs.Text.AsciiForms
import RestRecords.Proofs.Text.Splitting
import RestRecords.Proofs.Url.Punycode
import RestRecords.Proofs.Url.Domains
import RestRecords.Proofs.Url.Addresses
import RestRecords.Proofs.Url.Authorities
import RestRecords.Proofs.Url.Origins
import RestRecords.Proofs.Client.Origin
import RestRecords.Proofs.Number.Values
import RestRecords.Proofs.Binding.Integers
import RestRecords.Proofs.Client.Backoff
