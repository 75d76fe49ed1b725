import TextMasking.Main
import TextMasking.Masking.OneShot
import TextMasking.Masking.Redact
import TextMasking.Proofs.Document.Changes
import TextMasking.Session.Watcher
import TextMasking.Proofs.Document.WellFormed
import TextMasking.Proofs.Document.Attached
import TextMasking.Proofs.Document.History
import TextMasking.Proofs.Document.Links
import TextMasking.Proofs.Document.Outline
import TextMasking.Proofs.Document.Remasked
import TextMasking.Proofs.Masking.Pass
import TextMasking.Proofs.Masking.Reversal
import TextMasking.Proofs.Document.OutlineEdits
import TextMasking.Proofs.Session.Events
import TextMasking.Proofs.Session.Mirror
import TextMasking.Proofs.Session.Ownership
import TextMasking.Proofs.Session.Transparency
import TextMasking.Proofs.Masking.Idempotence
import TextMasking.Proofs.Document.Spots
import TextMasking.Proofs.Masking.Convergence
import TextMasking.Proofs.Masking.Skipping
import TextMasking.Proofs.Session.Coverage
import TextMasking.Proofs.Masking.Pieces
import TextMasking.Proofs.Matching.Quantity
import TextMasking.Proofs.Matching.Spelling
import TextMasking.Proofs.Command.Modes
import TextMasking.Proofs.Storage.Histories
import TextMasking.Proofs.Command.Transactions
import TextMasking.Proofs.Session.RuleChange
import TextMasking.Proofs.Matching.Tested
import TextMasking.Proofs.Matching.Neighbours
import TextMasking.Proofs.Session.Stopping
import TextMasking.Proofs.Matching.Offsets
import TextMasking.Proofs.Masking.Sparing
import TextMasking.Proofs.Session.Counting
import TextMasking.Proofs.Session.Attribution
import TextMasking.Proofs.Session.Topmost
import TextMasking.Proofs.Rules.Ties
import TextMasking.Proofs.Masking.Fences
import TextMasking.Proofs.Session.Batches
import TextMasking.Proofs.Command.InPlace
import TextMasking.Proofs.Rules.Acceptance
import TextMasking.Proofs.Document.Refusals
import TextMasking.Proofs.Document.StoredLinks
import TextMasking.Proofs.Rules.Editing
import TextMasking.Proofs.Matching.Tokens
import TextMasking.Proofs.Matching.Cutting
import TextMasking.Proofs.Matching.Verbatim
import TextMasking.Proofs.Masking.Fragments
import TextMasking.Proofs.Masking.Merging
