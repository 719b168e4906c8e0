import SqlTyping.Text.Uppercase
import SqlTyping.Text.Blank
import SqlTyping.Name.Qualified
import SqlTyping.Collection
import SqlTyping.Facets
import SqlTyping.Declared.Change
import SqlTyping.Declared.Difference
import SqlTyping.Resolved.Text
import SqlTyping.Catalog
import SqlTyping.Environment
import SqlTyping.Json.Declared
import SqlTyping.Json.Resolved
import SqlTyping.Proofs.Declared.Parts
import SqlTyping.Proofs.Resolution.OnePass
import SqlTyping.Proofs.Resolution.Checkpoints
import SqlTyping.Proofs.Name.Unplaced
import SqlTyping.Proofs.Resolved.Unplaced
import SqlTyping.Proofs.Declared.Canonical
import SqlTyping.Proofs.Declared.Gist
import SqlTyping.Proofs.Resolution.Alike
import SqlTyping.Proofs.Resolution.Invariance
import SqlTyping.Proofs.Declared.StructuralEquality
import SqlTyping.Proofs.Declared.Around
import SqlTyping.Proofs.Resolution.Names
import SqlTyping.Proofs.Environment.Session
import SqlTyping.Proofs.Environment.Bindings
import SqlTyping.Proofs.Resolution.WellFormed
import SqlTyping.Proofs.Environment.WellFormed
import SqlTyping.Proofs.Text.Seam
import SqlTyping.Proofs.Text.Wording
import SqlTyping.Proofs.Resolved.Wording
import SqlTyping.Proofs.Declared.Wording
import SqlTyping.Proofs.Environment.OnOffer
import SqlTyping.Proofs.Json.RoundTrip
import SqlTyping.Proofs.Resolution.Requests
import SqlTyping.Proofs.Declared.Findings
import SqlTyping.Proofs.Name.Spelling
import SqlTyping.Proofs.Environment.Isolation
import SqlTyping.Proofs.Name.LetterCase
import SqlTyping.Proofs.Environment.LetterCase
import SqlTyping.Proofs.Resolution.Elements
import SqlTyping.Proofs.Text.Layout
import SqlTyping.Proofs.Declared.Layout
import SqlTyping.Proofs.Resolution.TwoForms
import SqlTyping.Proofs.Resolved.Layout
import SqlTyping.Proofs.Text.Words
import SqlTyping.Proofs.Name.BuiltIn
import SqlTyping.Proofs.Resolution.SpelledOut
import SqlTyping.Proofs.Resolution.Moved
import SqlTyping.Proofs.Declared.LineBreaks
import SqlTyping.Proofs.Source.Union
import SqlTyping.Proofs.Resolution.HiddenScale
