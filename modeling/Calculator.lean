import Calculator.Main
import Calculator.Expr.Draft
import Calculator.Expr.Format
import Calculator.Proofs.Calculate.Exact
import Calculator.Proofs.Cursor.Recovery
import Calculator.Proofs.Cursor.Complaints
import Calculator.Proofs.Evaluation.Refinement
import Calculator.Proofs.Token.Segmentation
import Calculator.Proofs.Calculate.Gate
import Calculator.Proofs.Cursor.Limit
import Calculator.Proofs.Cursor.Descent
import Calculator.Proofs.Cursor.Invariant
import Calculator.Proofs.Calculate.RoundTrip
import Calculator.Proofs.Cursor.Separators
import Calculator.Proofs.Calculate.Composition
import Calculator.Proofs.Command.Agreement
import Calculator.Proofs.Command.Session
import Calculator.Proofs.Command.Survival
import Calculator.Proofs.Token.Payload
import Calculator.Proofs.Token.Calls
import Calculator.Proofs.Token.Concatenation
import Calculator.Proofs.Expr.Outline
import Calculator.Proofs.Cursor.Lookahead
import Calculator.Proofs.Token.Capped
import Calculator.Proofs.Calculate.Capped
import Calculator.Proofs.Expr.Brackets
import Calculator.Proofs.Expr.Connected
import Calculator.Proofs.Expr.Sketch
import Calculator.Proofs.Config.Failure
import Calculator.Proofs.Cursor.Skipping
import Calculator.Proofs.Evaluation.FirstFault
import Calculator.Proofs.Evaluation.Division
import Calculator.Proofs.Expr.Building
import Calculator.Proofs.Config.Override
import Calculator.Proofs.Command.LogLevel
