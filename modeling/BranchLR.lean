import BranchLR.Automaton
import BranchLR.BuiltTable
import BranchLR.Event
import BranchLR.Forest
import BranchLR.Grammar
import BranchLR.GrammarText.Clause
import BranchLR.GrammarText.Printer
import BranchLR.GrammarText.Reader
import BranchLR.GrammarText.SyntaxError
import BranchLR.GrammarText.Word
import BranchLR.Input
import BranchLR.Lexeme
import BranchLR.Parse
import BranchLR.Pattern
import BranchLR.Pattern.Assertion
import BranchLR.Pattern.CharSet
import BranchLR.Pattern.Class
import BranchLR.Pattern.Engine
import BranchLR.Pattern.Escape
import BranchLR.Pattern.Expr
import BranchLR.Pattern.Flags
import BranchLR.Pattern.Marking
import BranchLR.Pattern.Property
import BranchLR.Pattern.Reader
import BranchLR.Pattern.Weight
import BranchLR.Position
import BranchLR.Production
import BranchLR.Rule
import BranchLR.Search.Checkpoints
import BranchLR.Search.Failure
import BranchLR.Search.Run
import BranchLR.Search.Stack
import BranchLR.Search.Step
import BranchLR.Table
import BranchLR.Text.Alphabetic
import BranchLR.Text.Blank
import BranchLR.Text.Bracket
import BranchLR.Text.BracketPairs
import BranchLR.Text.CaseFolding
import BranchLR.Text.Casing
import BranchLR.Text.Category.Letter
import BranchLR.Text.Category.Mark
import BranchLR.Text.Category.Number
import BranchLR.Text.Category.Punctuation
import BranchLR.Text.Category.Separator
import BranchLR.Text.Category.Symbol
import BranchLR.Text.Extender
import BranchLR.Text.Feature
import BranchLR.Text.Invisible
import BranchLR.Text.Numeric
import BranchLR.Text.Quoted
import BranchLR.Text.Ranges
import BranchLR.Text.Script
import BranchLR.Proofs.Search.Moves
import BranchLR.Proofs.Search.Reachable
import BranchLR.Proofs.Derivation
import BranchLR.Proofs.Search.Candidates
import BranchLR.Proofs.Search.Representation
import BranchLR.Proofs.Search.Soundness
import BranchLR.Proofs.Search.ChoiceTree
import BranchLR.Proofs.Search.Traversal
import BranchLR.Proofs.Search.Trail
import BranchLR.Proofs.Search.Following
import BranchLR.Proofs.Search.Safety
import BranchLR.Proofs.Search.DepthFirst
import BranchLR.Proofs.Automaton.States
import BranchLR.Proofs.Automaton.Tables
import BranchLR.Proofs.Search.Stations
import BranchLR.Proofs.Search.DerivationPaths
import BranchLR.Proofs.Search.Completeness
import BranchLR.Proofs.Flattening.ContextFree
import BranchLR.Proofs.Flattening.Groups
import BranchLR.Proofs.Flattening.HelperNames
import BranchLR.Proofs.Flattening.Language
import BranchLR.Proofs.Flattening.Meaning
import BranchLR.Proofs.Search.Rejections
import BranchLR.Proofs.Search.Horizon
import BranchLR.Proofs.Automaton.Kernels
import BranchLR.Proofs.Search.Inside
import BranchLR.Proofs.Search.Survey
import BranchLR.Proofs.Sentential
import BranchLR.Proofs.Search.ViablePrefixes
import BranchLR.Proofs.LeftRecursion
import BranchLR.Proofs.TreeSize
import BranchLR.Proofs.Search.StackHeight
import BranchLR.Proofs.Search.Termination
import BranchLR.Proofs.Search.LockStep
import BranchLR.Proofs.Search.StepLimit
import BranchLR.Proofs.Automaton.Rounds
import BranchLR.Proofs.Automaton.Canonical
import BranchLR.Proofs.GrammarText.Additions
import BranchLR.Proofs.GrammarText.Phrases
import BranchLR.Proofs.GrammarText.Drafts
import BranchLR.Proofs.GrammarText.Acceptance
import BranchLR.Proofs.GrammarText.Quotations
import BranchLR.Proofs.GrammarText.Signs
import BranchLR.Proofs.Lexing.Splitting
import BranchLR.Proofs.Lexing.Positions
import BranchLR.Proofs.Lexing.Tiling
import BranchLR.Proofs.Lexing.Seams
import BranchLR.Proofs.GrammarText.Spelling
import BranchLR.Proofs.GrammarText.Writing
import BranchLR.Proofs.GrammarText.RoundTrip
import BranchLR.Proofs.GrammarText.Relocation
import BranchLR.Proofs.GrammarText.Layout
import BranchLR.Proofs.Flattening.References
import BranchLR.Proofs.Automaton.Layout
import BranchLR.Proofs.PrintedTrees
import BranchLR.Proofs.GrammarText.LooseReader
import BranchLR.Proofs.GrammarText.Safety
