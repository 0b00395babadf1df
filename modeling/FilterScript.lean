import FilterScript.Main
import FilterScript.Session
import FilterScript.Proofs.Binding.Lines
import FilterScript.Proofs.Binding.Extension
import FilterScript.Proofs.Fragment.Rendering
import FilterScript.Proofs.Binding.Expansion
import FilterScript.Proofs.Binding.Padding
import FilterScript.Proofs.Binding.Failures
import FilterScript.Proofs.Text.OneLine
import FilterScript.Proofs.Fragment.Forms
import FilterScript.Proofs.Binding.OneLine
import FilterScript.Proofs.Signature.Tokens
import FilterScript.Proofs.Signature.RoundTrip
import FilterScript.Proofs.Path.Canonical
import FilterScript.Proofs.References.Growth
import FilterScript.Proofs.Script.Changes
import FilterScript.Proofs.Session.Steps
import FilterScript.Proofs.Session.Failures
import FilterScript.Proofs.Session.Trace
import FilterScript.Proofs.References.Order
import FilterScript.Proofs.Session.Shares
import FilterScript.Proofs.Session.Soundness
import FilterScript.Proofs.Session.Independence
import FilterScript.Proofs.Script.Directives
import FilterScript.Proofs.Session.FullCode
import FilterScript.Proofs.Storage.Folders
import FilterScript.Proofs.Storage.ScriptFiles
import FilterScript.Proofs.Session.Files
import FilterScript.Proofs.Registry.Runs
import FilterScript.Proofs.Session.Names
import FilterScript.Proofs.CommandLine.Rendering
import FilterScript.Proofs.Environment.Faults
import FilterScript.Proofs.CommandLine.Exits
import FilterScript.Proofs.Catalog.Loading
import FilterScript.Proofs.Catalog.Failures
import FilterScript.Proofs.Storage.Runs
import FilterScript.Proofs.Storage.Map
import FilterScript.Proofs.Storage.Containment
import FilterScript.Proofs.Signature.Escapes
import FilterScript.Proofs.Signature.Forms
import FilterScript.Proofs.Color.Literals
import FilterScript.Proofs.Fragment.Typed
import FilterScript.Proofs.Fragment.Automatic
import FilterScript.Proofs.Fragment.Contradictions
import FilterScript.Proofs.Fragment.Types
import FilterScript.Proofs.Binding.Rewording
import FilterScript.Proofs.Number.Exponents
import FilterScript.Proofs.Color.Spellings
import FilterScript.Proofs.Session.Directories
import FilterScript.Proofs.Fragment.Escaping
import FilterScript.Proofs.Config.Validation
import FilterScript.Proofs.Registry.Categories
import FilterScript.Proofs.Registry.Aliases
