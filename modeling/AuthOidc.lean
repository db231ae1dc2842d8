import AuthOidc.Cache
import AuthOidc.Cache.Ceiling
import AuthOidc.Cache.ColdStart
import AuthOidc.Cache.Decision
import AuthOidc.Cache.Discipline
import AuthOidc.Cache.Failures
import AuthOidc.Cache.Finishes
import AuthOidc.Cache.Healthy
import AuthOidc.Cache.History
import AuthOidc.Cache.Locks
import AuthOidc.Cache.Lookup
import AuthOidc.Cache.Machine
import AuthOidc.Cache.Memo
import AuthOidc.Cache.Outage
import AuthOidc.Cache.Panics
import AuthOidc.Cache.Progress
import AuthOidc.Cache.Provenance
import AuthOidc.Cache.Refinement
import AuthOidc.Cache.Rejection
import AuthOidc.Cache.Sequential
import AuthOidc.Cache.Starts
import AuthOidc.Cache.Storm
import AuthOidc.Cache.Trying
import AuthOidc.Cache.Usable
import AuthOidc.Cache.Withdrawal
import AuthOidc.Claims
import AuthOidc.Claims.Audience
import AuthOidc.Claims.Checks
import AuthOidc.Claims.Clock
import AuthOidc.Claims.Identity
import AuthOidc.Claims.Replay
import AuthOidc.Claims.Window
import AuthOidc.Config
import AuthOidc.Discovery
import AuthOidc.Discovery.Https
import AuthOidc.Discovery.Trust
import AuthOidc.Fetch
import AuthOidc.Foreign
import AuthOidc.Jwks
import AuthOidc.Jwt
import AuthOidc.Jwt.ErrorText
import AuthOidc.Jwt.Splitter
import AuthOidc.Library.AttemptLog
import AuthOidc.Library.Base64
import AuthOidc.Library.Charset
import AuthOidc.Library.Clocked
import AuthOidc.Library.Delimited
import AuthOidc.Library.Interaction
import AuthOidc.Library.Locking
import AuthOidc.Library.Once
import AuthOidc.Library.QueryString
import AuthOidc.Library.Reading
import AuthOidc.Library.Record
import AuthOidc.Library.Spacing
import AuthOidc.Library.Transition
import AuthOidc.Module
import AuthOidc.Module.AuthorizeUrl
import AuthOidc.Module.Completeness
import AuthOidc.Module.LogText
import AuthOidc.Module.Login
import AuthOidc.Module.Separation
import AuthOidc.Module.Soundness
import AuthOidc.Module.Threads
import AuthOidc.Plugin
import AuthOidc.Plugin.Login
import AuthOidc.Rust.Number
import AuthOidc.Rust.Text
import AuthOidc.Rust.Time
import AuthOidc.SerdeJson
import AuthOidc.Testkit
