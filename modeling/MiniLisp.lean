import MiniLisp.Draft
import MiniLisp.Host.Fault
import MiniLisp.Host.Grammar
import MiniLisp.Term.Printer
import MiniLisp.Text.Quoted
import MiniLisp.Text.Case
import MiniLisp.Host.Lexer
import MiniLisp.Host.Value
import MiniLisp.Host.Ordering
import MiniLisp.Host.Indexing
import MiniLisp.Host.Percent
import MiniLisp.Host.Evaluation
import MiniLisp.Scope
import MiniLisp.Console
import MiniLisp.Macro
import MiniLisp.Expansion
import MiniLisp.Evaluation
import MiniLisp.CommandLine
import MiniLisp.Settings
import MiniLisp.Scope.Printer
import MiniLisp.Proofs.ScopeLocality
import MiniLisp.Proofs.Grammar
import MiniLisp.Proofs.RoundTrip
import MiniLisp.Proofs.TemplateMacro
import MiniLisp.Proofs.LexicalGrammar
import MiniLisp.Proofs.Exhaustion
import MiniLisp.Proofs.LexicalIsolation
import MiniLisp.Proofs.BreakFlag
import MiniLisp.Proofs.LayoutIndependence
import MiniLisp.Proofs.PhaseSeparation
import MiniLisp.Proofs.Expanded.Forms
import MiniLisp.Proofs.PreludeTransparency
import MiniLisp.Proofs.JoinedTexts
import MiniLisp.Proofs.EscapingStops
import MiniLisp.Proofs.ScopedBindings
import MiniLisp.Proofs.HostProgress
import MiniLisp.Proofs.ExpansionEnds
import MiniLisp.Proofs.PrintedEquality
import MiniLisp.Proofs.Balance
import MiniLisp.Proofs.ClosureCalls
import MiniLisp.Proofs.Quotation
import MiniLisp.Proofs.EvaluatedTemplate
import MiniLisp.Proofs.StringLiterals
import MiniLisp.Proofs.Respacing
import MiniLisp.Proofs.ComparisonChains
import MiniLisp.Proofs.HostBoundary
import MiniLisp.Proofs.PreludePath
import MiniLisp.Proofs.NumberText
