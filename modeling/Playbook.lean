import Playbook.Document
import Playbook.Feature.Json
import Playbook.Pattern
import Playbook.Proofs.Document.Coherence
import Playbook.Proofs.Document.Line
import Playbook.Proofs.Document.Listing
import Playbook.Proofs.Document.Numbering
import Playbook.Proofs.Document.Script.Layout
import Playbook.Proofs.Document.Script.Lines
import Playbook.Proofs.Document.Script.Reading
import Playbook.Proofs.Registry.Literal
import Playbook.Pattern.Builtin
import Playbook.Registry.Dump
import Playbook.Run
import Playbook.Settings
import Playbook.Store
import Playbook.Proofs.Document.Relocation
import Playbook.Proofs.Document.Insertion
import Playbook.Proofs.Document.Continuation
import Playbook.Proofs.Document.Expansion
import Playbook.Proofs.Registry.Batch
import Playbook.Proofs.Registry.History
import Playbook.Proofs.Registry.Resolution
import Playbook.Proofs.Hooks
import Playbook.Proofs.Run
import Playbook.Proofs.Document.Selection
import Playbook.Proofs.Loading
import Playbook.Proofs.Document.Demand
import Playbook.Proofs.Document.Refusing
import Playbook.Proofs.Document.Recognition
import Playbook.Proofs.Document.History
import Playbook.Proofs.Document.Blame
import Playbook.Proofs.Document.Margins
import Playbook.Proofs.Placeholder
import Playbook.Proofs.Document.StrayText
import Playbook.Proofs.Diagnostics
import Playbook.Proofs.Document.Warnings
import Playbook.Proofs.Columns
import Playbook.Proofs.Document.StepKinds
import Playbook.Proofs.Document.Exclusion
import Playbook.Proofs.Document.Cursor
import Playbook.Proofs.Document.LoopHeaders
import Playbook.Proofs.Captures
import Playbook.Proofs.Spellings
import Playbook.Proofs.Document.Passage
