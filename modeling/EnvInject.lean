import EnvInject.Main
import EnvInject.Proofs.Document.Blanking
import EnvInject.Proofs.Document.Content
import EnvInject.Proofs.Document.Flattening
import EnvInject.Proofs.Document.Formats
import EnvInject.Proofs.Document.KeyModes
import EnvInject.Proofs.Document.Leaves
import EnvInject.Proofs.Document.Metadata
import EnvInject.Proofs.Document.Tree
import EnvInject.Proofs.Document.Wrapper
import EnvInject.Proofs.Dotenv.Lines
import EnvInject.Proofs.Dotenv.Writing
import EnvInject.Proofs.Environment.Equality
import EnvInject.Proofs.Environment.History
import EnvInject.Proofs.Execution.Preparing
import EnvInject.Proofs.Execution.Redaction
import EnvInject.Proofs.Execution.Stages
import EnvInject.Proofs.File.Changes
import EnvInject.Proofs.File.Joining
import EnvInject.Proofs.File.Settled
import EnvInject.Proofs.File.Walking
import EnvInject.Proofs.Injection.Agreement
import EnvInject.Proofs.Injection.Collisions
import EnvInject.Proofs.Injection.Composing
import EnvInject.Proofs.Injection.Fetching
import EnvInject.Proofs.Injection.Pristine
import EnvInject.Proofs.Injection.Rendering
import EnvInject.Proofs.Injection.Reordering
import EnvInject.Proofs.Injection.Strict
import EnvInject.Proofs.Json.Places
import EnvInject.Proofs.Secret.Collecting
import EnvInject.Proofs.Secret.Naming
import EnvInject.Proofs.Secret.Outcome
import EnvInject.Proofs.Secret.Parts
import EnvInject.Proofs.Service.Grammar
import EnvInject.Proofs.Settings.InForce
import EnvInject.Proofs.Settings.Precedence
import EnvInject.Proofs.Settings.StorePath
import EnvInject.Proofs.Store.Candidates
import EnvInject.Proofs.Store.Decrypting
import EnvInject.Proofs.Store.Isolation
import EnvInject.Proofs.Store.Lookup
import EnvInject.Proofs.Tool.Examining
import EnvInject.Proofs.Tool.Executing
import EnvInject.Proofs.Tool.ExitStatus
