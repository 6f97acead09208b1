import ExprLex.Chart.Figure
import ExprLex.Failure
import ExprLex.OperatorTable.Store
import ExprLex.Proofs.BracketLog.History
import ExprLex.Proofs.Chart.Figure
import ExprLex.Proofs.Chart.Points
import ExprLex.Proofs.Grammar.Completeness
import ExprLex.Proofs.Grammar.Derivation
import ExprLex.Proofs.Grammar.Soundness
import ExprLex.Proofs.Operator.Entries
import ExprLex.Proofs.Operator.Extension
import ExprLex.Proofs.Operator.History
import ExprLex.Proofs.Operator.Registration
import ExprLex.Proofs.Scanner.Agreement
import ExprLex.Proofs.Scanner.Continuation
import ExprLex.Proofs.Scanner.Fault
import ExprLex.Proofs.Scanner.Matching
import ExprLex.Proofs.Scanner.Notices
import ExprLex.Proofs.Scanner.Progress
import ExprLex.Proofs.Scanner.Reflection
import ExprLex.Proofs.Scanner.Stage
import ExprLex.Proofs.Scanner.Stop
import ExprLex.Proofs.Session.Pending
import ExprLex.Proofs.Session.Pieces
import ExprLex.Proofs.Session.Reading
import ExprLex.Proofs.Session.Refusal
import ExprLex.Proofs.Text.Lexeme
import ExprLex.Proofs.Text.Lines
import ExprLex.Proofs.Token.Concatenation
import ExprLex.Proofs.Token.Multiplied
import ExprLex.Proofs.Token.Nesting
import ExprLex.Proofs.Token.Phrase
import ExprLex.Proofs.Token.Validity
import ExprLex.Proofs.Tokenization.Blanks
import ExprLex.Proofs.Tokenization.Diagnosis
import ExprLex.Proofs.Tokenization.ErrorPosition
import ExprLex.Proofs.Tokenization.Faithful
import ExprLex.Proofs.Tokenization.Groups
import ExprLex.Proofs.Tokenization.Joined
import ExprLex.Proofs.Tokenization.Juxtaposition
import ExprLex.Proofs.Tokenization.Language
import ExprLex.Proofs.Tokenization.Log
import ExprLex.Proofs.Tokenization.Nesting
import ExprLex.Proofs.Tokenization.Operand
import ExprLex.Proofs.Tokenization.Pointer
import ExprLex.Proofs.Tokenization.Roles
import ExprLex.Proofs.Tokenization.Stable
import ExprLex.Proofs.Tokenization.Value
import ExprLex.Proofs.Tokenization.ViablePrefix
import ExprLex.Proofs.Tokenization.WellFormed
import ExprLex.Proofs.Tokenization.Written
import ExprLex.Session
import ExprLex.Token.Candidate
