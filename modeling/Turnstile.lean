import Turnstile.Answer
import Turnstile.Clauses
import Turnstile.Document.Search
import Turnstile.Document.Storage
import Turnstile.Grammar
import Turnstile.Main
import Turnstile.Occurrence
import Turnstile.Proofs.Confluence
import Turnstile.Proofs.Encoding
import Turnstile.Proofs.Location
import Turnstile.Proofs.RoundTrip
import Turnstile.Proofs.Validity
import Turnstile.Semantics
import Turnstile.Settings.Desk
import Turnstile.Proofs.Display
import Turnstile.Guarded
import Turnstile.Proofs.Stopping
import Turnstile.Proofs.Session
import Turnstile.Proofs.Relocation
import Turnstile.Proofs.Respelling
import Turnstile.Proofs.Subformulas
import Turnstile.Proofs.Answering
import Turnstile.Proofs.Priority
import Turnstile.Proofs.Verdict
import Turnstile.Proofs.Termination
import Turnstile.Proofs.Renaming
import Turnstile.Search.Logged
import Turnstile.Proofs.Trace
import Turnstile.Proofs.Queries
import Turnstile.Proofs.Unambiguity
import Turnstile.Proofs.Segmentation
import Turnstile.Proofs.TermLocation
import Turnstile.Proofs.Updates
import Turnstile.Proofs.StackShape
import Turnstile.Proofs.Loading
import Turnstile.Proofs.Surrogates
