import TokenGate.AuthError
import TokenGate.Cache.Entry
import TokenGate.Cache.Fetch
import TokenGate.Cache.Freshness
import TokenGate.Claims.Basic
import TokenGate.Claims.Profile
import TokenGate.Claims.Registered
import TokenGate.Config
import TokenGate.Crowd.Basic
import TokenGate.Crowd.Schedule
import TokenGate.Crypto.Ecdsa
import TokenGate.Crypto.Ed25519
import TokenGate.Crypto.Number
import TokenGate.Crypto.Rsa
import TokenGate.Crypto.Sha2
import TokenGate.Crypto.Signature
import TokenGate.Discovery
import TokenGate.Gate.Basic
import TokenGate.Gate.Keys
import TokenGate.Gate.Validate
import TokenGate.Http.Exchange
import TokenGate.Http.Message
import TokenGate.Http.Network
import TokenGate.Http.Url
import TokenGate.Identity.Subject
import TokenGate.Json.Basic
import TokenGate.Json.Form
import TokenGate.Json.Reading
import TokenGate.Json.Writing
import TokenGate.Key.Jwk
import TokenGate.Key.KeySet
import TokenGate.Key.Usage
import TokenGate.Metrics
import TokenGate.Number.Binary64
import TokenGate.Number.Decimal
import TokenGate.Number.Shortest
import TokenGate.Proofs.Account
import TokenGate.Proofs.Cache.Duration
import TokenGate.Proofs.Cache.Freshness
import TokenGate.Proofs.Cache.History
import TokenGate.Proofs.Cache.Keys
import TokenGate.Proofs.Cache.Lines
import TokenGate.Proofs.Cache.Pace
import TokenGate.Proofs.Cache.Record
import TokenGate.Proofs.Cache.Requests
import TokenGate.Proofs.Cache.Transient
import TokenGate.Proofs.Cache.Upcoming
import TokenGate.Proofs.Claims.Basic
import TokenGate.Proofs.Claims.Dates
import TokenGate.Proofs.Claims.Members
import TokenGate.Proofs.Claims.Redaction
import TokenGate.Proofs.Claims.RoundTrip
import TokenGate.Proofs.Claims.Strict
import TokenGate.Proofs.Config.Acceptance
import TokenGate.Proofs.Config.Reading
import TokenGate.Proofs.Config.Redaction
import TokenGate.Proofs.Courtesy
import TokenGate.Proofs.Crowd.Answers
import TokenGate.Proofs.Crowd.Books
import TokenGate.Proofs.Crowd.Courses
import TokenGate.Proofs.Crowd.Flight
import TokenGate.Proofs.Crowd.Guard
import TokenGate.Proofs.Crowd.Pace
import TokenGate.Proofs.Crowd.Record
import TokenGate.Proofs.Crowd.SingleFlight
import TokenGate.Proofs.Crowd.Turn
import TokenGate.Proofs.Crowd.Uncounted
import TokenGate.Proofs.Crowd.Unknown
import TokenGate.Proofs.Crowd.Views
import TokenGate.Proofs.Discovery
import TokenGate.Proofs.Gate.Books
import TokenGate.Proofs.Gate.Deeds
import TokenGate.Proofs.Gate.Lookup
import TokenGate.Proofs.Gate.Pace
import TokenGate.Proofs.Gate.Patience
import TokenGate.Proofs.Gate.Record
import TokenGate.Proofs.Gate.Uncounted
import TokenGate.Proofs.Http.Fields
import TokenGate.Proofs.Http.Places
import TokenGate.Proofs.Http.Trail
import TokenGate.Proofs.Http.Upcoming
import TokenGate.Proofs.Identity.Spelling
import TokenGate.Proofs.Identity.Subject
import TokenGate.Proofs.Json.Lookup
import TokenGate.Proofs.Json.Named
import TokenGate.Proofs.Json.RoundTrip
import TokenGate.Proofs.Key.Entries
import TokenGate.Proofs.Key.Family
import TokenGate.Proofs.KeyLookup
import TokenGate.Proofs.Keyless
import TokenGate.Proofs.Ledger
import TokenGate.Proofs.Metrics
import TokenGate.Proofs.Pause
import TokenGate.Proofs.Reach
import TokenGate.Proofs.Readers
import TokenGate.Proofs.Retry
import TokenGate.Proofs.Roster
import TokenGate.Proofs.Scene.Account
import TokenGate.Proofs.Service.Credentials
import TokenGate.Proofs.Service.Ending
import TokenGate.Proofs.Service.Protected
import TokenGate.Proofs.Service.Refusal
import TokenGate.Proofs.Service.Timely
import TokenGate.Proofs.Serving
import TokenGate.Proofs.Standing
import TokenGate.Proofs.Storing
import TokenGate.Proofs.Sweep
import TokenGate.Proofs.Text.Base64Url
import TokenGate.Proofs.Text.Bytes
import TokenGate.Proofs.Text.Diagnostic
import TokenGate.Proofs.Text.Fields
import TokenGate.Proofs.Text.Words
import TokenGate.Proofs.Time.MailDate
import TokenGate.Proofs.Time.Window
import TokenGate.Proofs.Token.Agreement
import TokenGate.Proofs.Token.Extraction
import TokenGate.Proofs.Token.Reading
import TokenGate.Proofs.Validation.Audience
import TokenGate.Proofs.Validation.Genuine
import TokenGate.Proofs.Validation.Identity
import TokenGate.Proofs.Validation.Judgement
import TokenGate.Proofs.Validation.Pinning
import TokenGate.Provider
import TokenGate.Retry
import TokenGate.Scene.Basic
import TokenGate.Scene.Play
import TokenGate.Service.Response
import TokenGate.Service.Routes
import TokenGate.Text.Base64Url
import TokenGate.Text.Basic
import TokenGate.Text.PrintableTable
import TokenGate.Text.Quoted
import TokenGate.Text.Upper
import TokenGate.Time.Instant
import TokenGate.Time.MailDate
import TokenGate.Time.Span
import TokenGate.Time.Stamp
import TokenGate.Time.Window
import TokenGate.Token.Algorithm
import TokenGate.Token.Header
import TokenGate.Token.SignedHeader
import TokenGate.Validator
