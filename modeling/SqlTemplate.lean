import SqlTemplate.Unicode.Property
import SqlTemplate.Unicode.CaseFolding
import SqlTemplate.Template.Trace
import SqlTemplate.Template.Substitution
import SqlTemplate.Value.Printer
import SqlTemplate.Value.Reader
import SqlTemplate.Path.Resolve
import SqlTemplate.Regex.CharSet
import SqlTemplate.Regex.Token
import SqlTemplate.Regex.Meaning
import SqlTemplate.Regex.Decision
import SqlTemplate.Node.Display
import SqlTemplate.Config.Arguments
import SqlTemplate.Config.Settings
import SqlTemplate.Session.Basic
import SqlTemplate.Proofs.Screening
import SqlTemplate.Proofs.Pattern.Anchored
import SqlTemplate.Proofs.Scan.Cursor
import SqlTemplate.Proofs.Scan.Pieces
import SqlTemplate.Proofs.Scan.Encoding
import SqlTemplate.Proofs.Scan.OnePass
import SqlTemplate.Proofs.Scan.Calls
import SqlTemplate.Proofs.Scan.Unescaped
import SqlTemplate.Proofs.Classification
import SqlTemplate.Proofs.Path.Grammar
import SqlTemplate.Proofs.Path.Parsing
import SqlTemplate.Proofs.Path.Folding
import SqlTemplate.Proofs.Path.Joining
import SqlTemplate.Proofs.Cache
import SqlTemplate.Proofs.Session.Transparency
import SqlTemplate.Proofs.Atomicity
import SqlTemplate.Proofs.Composition
import SqlTemplate.Proofs.Session.History
import SqlTemplate.Proofs.Session.Chronicle
import SqlTemplate.Proofs.Submission
import SqlTemplate.Proofs.Path.Position
import SqlTemplate.Proofs.Path.Printing
import SqlTemplate.Proofs.Concatenation
import SqlTemplate.Proofs.Scan.Lossless
import SqlTemplate.Proofs.Scan.Bounds
import SqlTemplate.Proofs.Logging
import SqlTemplate.Proofs.Path.Quoting
