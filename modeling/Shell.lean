import Shell.Main
import Shell.Proofs.Arith.Numeral
import Shell.Proofs.Arith.Separation
import Shell.Proofs.Arith.Spelling
import Shell.Proofs.Scope.Lookup
import Shell.Proofs.Arith.Tree
import Shell.Proofs.Arith.Evaluation
import Shell.Proofs.Arith.Reference
import Shell.Proofs.Arith.Printing
import Shell.Proofs.Arith.Simulation
import Shell.Proofs.Arith.Ranges
import Shell.Proofs.Arith.Precedence
import Shell.Proofs.Arith.Staging
import Shell.Proofs.Arith.Grammar
import Shell.Proofs.Arith.ControlFlow
import Shell.Proofs.Arith.Branches
import Shell.Proofs.Arith.Assignment
import Shell.Proofs.Arith.Decimal
import Shell.Proofs.Token.Markers
import Shell.Proofs.Eval.Expansion
import Shell.Proofs.Glob.Matching
import Shell.Proofs.Eval.Frames
import Shell.Proofs.Eval.Contexts
import Shell.Proofs.Eval.Laws
import Shell.Proofs.Token.Cursor
import Shell.Proofs.Token.Handover
import Shell.Proofs.Token.Spelling
import Shell.Proofs.Token.Relocation
import Shell.Proofs.Token.Lines
import Shell.Proofs.Eval.Pairs
import Shell.Proofs.Eval.LastStatus
import Shell.Proofs.Eval.Preparation
import Shell.Proofs.Eval.CommandScope
import Shell.Proofs.Eval.Starting
import Shell.Proofs.Scope.Environment
import Shell.Proofs.CommandLine.Quoting
import Shell.Proofs.CommandLine.Arguments
import Shell.Proofs.Process.Polling
import Shell.Proofs.Process.Jobs
import Shell.Proofs.Token.Places
import Shell.Proofs.Token.Enclosed
import Shell.Proofs.Scope.Exports
import Shell.Proofs.Process.Pipelines
import Shell.Proofs.Arith.Nesting
import Shell.Proofs.Token.Recorded
import Shell.Proofs.Glob.Calls
import Shell.Proofs.Arith.Integer
import Shell.Proofs.Eval.History
import Shell.Proofs.Glob.Classes
import Shell.Proofs.Process.Commands
import Shell.Proofs.Arith.Words
import Shell.Proofs.Arith.Lexemes
