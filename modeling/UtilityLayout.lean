import UtilityLayout.Main
import UtilityLayout.Session
import UtilityLayout.Proofs.Results
import UtilityLayout.Proofs.Numeral.Digits
import UtilityLayout.Proofs.Numeral.Spelling
import UtilityLayout.Proofs.Numeral.Acceptance
import UtilityLayout.Proofs.Text.Words
import UtilityLayout.Proofs.Text.Pieces
import UtilityLayout.Proofs.Text.Ending
import UtilityLayout.Proofs.Text.Lowering
import UtilityLayout.Proofs.Text.Halves
import UtilityLayout.Proofs.Utility.BorderWidth
import UtilityLayout.Proofs.Utility.Forms
import UtilityLayout.Proofs.Utility.Revival
import UtilityLayout.Proofs.Utility.Segments
import UtilityLayout.Proofs.Utility.Rules
import UtilityLayout.Proofs.Utility.Locality
import UtilityLayout.Proofs.Utility.Entries
import UtilityLayout.Proofs.Conversion.Operations
import UtilityLayout.Proofs.Conversion.Reading
import UtilityLayout.Proofs.Conversion.Composition
import UtilityLayout.Proofs.Layout.Families
import UtilityLayout.Proofs.Layout.LastWins
import UtilityLayout.Proofs.Layout.Explained
import UtilityLayout.Proofs.Layout.Forms
import UtilityLayout.Proofs.Layout.Recovery
import UtilityLayout.Proofs.Files.Walk
import UtilityLayout.Proofs.Files.Making
import UtilityLayout.Proofs.Files.Names
import UtilityLayout.Proofs.Files.Frame
import UtilityLayout.Proofs.Theme.Defects
import UtilityLayout.Proofs.Store.Probe
import UtilityLayout.Proofs.Store.Overlay
import UtilityLayout.Proofs.Store.Copying
import UtilityLayout.Proofs.Store.Stopping
import UtilityLayout.Proofs.Store.Isolation
import UtilityLayout.Proofs.Store.Naming
import UtilityLayout.Proofs.Store.Confinement
import UtilityLayout.Proofs.Json.Grammar
import UtilityLayout.Proofs.Json.Outside
import UtilityLayout.Proofs.Json.Numbers
import UtilityLayout.Proofs.Json.Printing
import UtilityLayout.Proofs.Json.Ascii
import UtilityLayout.Proofs.Json.Reading
import UtilityLayout.Proofs.Json.Recovery
import UtilityLayout.Proofs.Session.Steps
import UtilityLayout.Proofs.Session.Coherence
import UtilityLayout.Proofs.Session.Unnoticed
import UtilityLayout.Proofs.Session.Answers
import UtilityLayout.Proofs.Session.Replies
import UtilityLayout.Proofs.Binary64.Rounding
import UtilityLayout.Proofs.Utility.Percentages
import UtilityLayout.Proofs.Utility.Fractions
import UtilityLayout.Proofs.Utility.Unsigned
import UtilityLayout.Proofs.Text.Casing
import UtilityLayout.Proofs.Layout.Respelled
import UtilityLayout.Proofs.Binary64.Nearest
import UtilityLayout.Proofs.Store.Failing
import UtilityLayout.Proofs.Numeral.Tenths
import UtilityLayout.Proofs.Layout.Merging
import UtilityLayout.Proofs.Layout.Deletion
import UtilityLayout.Proofs.Theme.Tables
import UtilityLayout.Proofs.Theme.Reloading
import UtilityLayout.Proofs.Store.Preserving
import UtilityLayout.Proofs.Store.Shadowing
import UtilityLayout.Proofs.Layout.Wholes
import UtilityLayout.Proofs.Numeral.Rereading
import UtilityLayout.Proofs.Binary64.Decimals
import UtilityLayout.Proofs.Numeral.Literals
import UtilityLayout.Proofs.Utility.Widths
import UtilityLayout.Proofs.CommandLine.Names
import UtilityLayout.Proofs.CommandLine.Reading
import UtilityLayout.Proofs.Files.Resolution
import UtilityLayout.Proofs.CommandLine.Launching
