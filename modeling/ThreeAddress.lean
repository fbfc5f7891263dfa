import ThreeAddress.LogFilter
import ThreeAddress.Main
import ThreeAddress.Proofs.Meaning
import ThreeAddress.Proofs.CallIsolation
import ThreeAddress.Proofs.Layout
import ThreeAddress.Proofs.RoundTrip
import ThreeAddress.Proofs.Placement
import ThreeAddress.Proofs.Blocks
import ThreeAddress.Proofs.Relocation
import ThreeAddress.Proofs.BlockLayout
import ThreeAddress.Proofs.StoredSession
import ThreeAddress.Proofs.Linkage
import ThreeAddress.Proofs.ImageRoundTrip
import ThreeAddress.Proofs.CallStack
import ThreeAddress.Proofs.ProgramCounter
import ThreeAddress.Proofs.Limits
import ThreeAddress.Proofs.CallerIndependence
import ThreeAddress.Proofs.ImageLinkage
import ThreeAddress.Proofs.StepBudget
import ThreeAddress.Proofs.Transparency
import ThreeAddress.Proofs.Writable
import ThreeAddress.Proofs.FaultAtomicity
import ThreeAddress.Proofs.Breakpoints
import ThreeAddress.Proofs.Undo
import ThreeAddress.Proofs.PendingArguments
import ThreeAddress.Proofs.StatementLines
import ThreeAddress.Proofs.FirstDefect
import ThreeAddress.Proofs.SessionTable
import ThreeAddress.Proofs.Renumbering
import ThreeAddress.Proofs.ExactArithmetic
import ThreeAddress.Proofs.Comparison
import ThreeAddress.Proofs.BlankLines
import ThreeAddress.Proofs.ParameterBinding
import ThreeAddress.Proofs.StraightLine
import ThreeAddress.Proofs.CommandLoop
import ThreeAddress.Proofs.ValueText
import ThreeAddress.Proofs.DeclarationText
import ThreeAddress.Proofs.LexerCalls
import ThreeAddress.Proofs.TokenText
