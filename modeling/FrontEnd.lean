import FrontEnd.Diagnostic.Edit
import FrontEnd.Expr.ParseLaw
import FrontEnd.Main
import FrontEnd.Text.Cursor.Session
import FrontEnd.Proofs.CommandLine.Colors
import FrontEnd.Proofs.Descent.Kept
import FrontEnd.Proofs.Descent.Progress
import FrontEnd.Proofs.Descent.Prompt
import FrontEnd.Proofs.Diagnostic.Findings
import FrontEnd.Proofs.Diagnostic.Legible
import FrontEnd.Proofs.Diagnostic.Report
import FrontEnd.Proofs.Diagnostic.RunReport
import FrontEnd.Proofs.Grammar.Assignment
import FrontEnd.Proofs.Grammar.Concatenation
import FrontEnd.Proofs.Grammar.Finality
import FrontEnd.Proofs.Grammar.Relabeling
import FrontEnd.Proofs.Grammar.Root
import FrontEnd.Proofs.Grammar.TrailingComma
import FrontEnd.Proofs.Grammar.Viability
import FrontEnd.Proofs.Infix.RoundTrip
import FrontEnd.Proofs.Output.Faithful
import FrontEnd.Proofs.Output.Listing
import FrontEnd.Proofs.Output.RunLaw
import FrontEnd.Proofs.Output.RunLog
import FrontEnd.Proofs.Output.Truncation
import FrontEnd.Proofs.Text.Printable
import FrontEnd.Proofs.Text.Sessions
import FrontEnd.Proofs.Token.Concatenation
import FrontEnd.Proofs.Token.Foreign
