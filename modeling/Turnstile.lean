import Turnstile.Json.Reader
import Turnstile.Json.Source
import Turnstile.Main
import Turnstile.Proofs.Token.Acceptance
import Turnstile.Proofs.Limiter.Buckets
import Turnstile.Proofs.Limiter.Check
import Turnstile.Proofs.Limiter.Run
import Turnstile.Proofs.Limiter.Bound
import Turnstile.Proofs.Token.Claims
import Turnstile.Proofs.Gate.Decision
import Turnstile.Proofs.App.Service
import Turnstile.Proofs.Text.Utf8
import Turnstile.Proofs.App.Routing
import Turnstile.Proofs.Net.Form
import Turnstile.Proofs.App.Propagation
import Turnstile.Proofs.Limiter.Subject
import Turnstile.Proofs.Gate.Quota
import Turnstile.Proofs.App.Run
import Turnstile.Proofs.App.Charging
import Turnstile.Proofs.Limiter.Overlap
import Turnstile.Proofs.Limiter.Pace
import Turnstile.Proofs.Limiter.Ticks
import Turnstile.Proofs.Limiter.Monotone
import Turnstile.Proofs.Net.Address
import Turnstile.Proofs.Gate.Subject
import Turnstile.Proofs.Gate.Run
import Turnstile.Proofs.Json.RoundTrip
import Turnstile.Proofs.Token.Window
import Turnstile.Proofs.Token.User
import Turnstile.Proofs.Text.Digits
import Turnstile.Proofs.Calendar.Date
import Turnstile.Proofs.Calendar.Stamp
import Turnstile.Proofs.Uuid
import Turnstile.Proofs.Token.Quota
import Turnstile.Proofs.Limiter.Independence
import Turnstile.Proofs.Limiter.Rejection
import Turnstile.Proofs.Gate.TokenKinds
import Turnstile.Proofs.Limiter.Faults
import Turnstile.Proofs.Gate.Faults
import Turnstile.Proofs.Config.Validation
import Turnstile.Proofs.Limiter.Sweep
import Turnstile.Proofs.Token.Grammar
import Turnstile.Proofs.Limiter.Phases
import Turnstile.Proofs.Limiter.Recovery
import Turnstile.Proofs.Text.Runs
import Turnstile.Proofs.Net.RoundTrip
import Turnstile.Proofs.Net.Forwarded
import Turnstile.Proofs.App.Client
import Turnstile.Proofs.App.Policies
import Turnstile.Proofs.App.Outline
import Turnstile.Proofs.Limiter.Invariant
import Turnstile.Proofs.Limiter.Newcomer
import Turnstile.Proofs.Data.Shows
import Turnstile.Proofs.Config.RoundTrip
import Turnstile.Proofs.Yaml.Spellings
import Turnstile.Proofs.Yaml.Meaning
import Turnstile.Proofs.Yaml.Nodes
import Turnstile.Proofs.Yaml.Gaps
import Turnstile.Proofs.Yaml.Plain
import Turnstile.Proofs.Yaml.Quoted
import Turnstile.Proofs.Yaml.Literal
import Turnstile.Proofs.Yaml.Lexing
import Turnstile.Proofs.Yaml.Tokens
import Turnstile.Proofs.Yaml.Allowed
import Turnstile.Proofs.Yaml.Rendering
import Turnstile.Proofs.Config.Yaml
