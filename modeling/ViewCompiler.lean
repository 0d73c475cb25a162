import ViewCompiler.Binding.Basic
import ViewCompiler.Binding.Classify
import ViewCompiler.Binding.Key
import ViewCompiler.Binding.Set
import ViewCompiler.Command.Arguments
import ViewCompiler.Command.Instrument
import ViewCompiler.Command.Outcome
import ViewCompiler.Command.Parse
import ViewCompiler.Command.Run
import ViewCompiler.Command.Suggestion
import ViewCompiler.Command.Validate
import ViewCompiler.Edit.Apply
import ViewCompiler.Edit.Basic
import ViewCompiler.Edit.Range
import ViewCompiler.Files.Basic
import ViewCompiler.Files.Path
import ViewCompiler.Instrument.CallSite
import ViewCompiler.Instrument.Callback
import ViewCompiler.Instrument.Constructor
import ViewCompiler.Instrument.Error
import ViewCompiler.Instrument.Options
import ViewCompiler.Instrument.Run
import ViewCompiler.Log
import ViewCompiler.Main
import ViewCompiler.Markup.Node
import ViewCompiler.Markup.Outline
import ViewCompiler.Markup.Read
import ViewCompiler.Markup.Reference.Basic
import ViewCompiler.Markup.Reference.Entries
import ViewCompiler.Markup.Segment
import ViewCompiler.Markup.Tag
import ViewCompiler.Markup.Token
import ViewCompiler.Proofs.Binding.Classify
import ViewCompiler.Proofs.Binding.History
import ViewCompiler.Proofs.Binding.Priority
import ViewCompiler.Proofs.Binding.Refusal
import ViewCompiler.Proofs.Binding.Set
import ViewCompiler.Proofs.Edit.Apply
import ViewCompiler.Proofs.Edit.Kept
import ViewCompiler.Proofs.Edit.Nest
import ViewCompiler.Proofs.Edit.Order
import ViewCompiler.Proofs.Edit.Passage
import ViewCompiler.Proofs.Edit.Range
import ViewCompiler.Proofs.Edit.Rendering
import ViewCompiler.Proofs.Edit.Replaced
import ViewCompiler.Proofs.Edit.Stats
import ViewCompiler.Proofs.Edit.Walk
import ViewCompiler.Proofs.Firsts
import ViewCompiler.Proofs.Instrument.Atomic
import ViewCompiler.Proofs.Instrument.Built
import ViewCompiler.Proofs.Instrument.CallSite
import ViewCompiler.Proofs.Instrument.Generated
import ViewCompiler.Proofs.Instrument.Hygiene
import ViewCompiler.Proofs.Instrument.Kept
import ViewCompiler.Proofs.Instrument.Literal
import ViewCompiler.Proofs.Instrument.Once
import ViewCompiler.Proofs.Instrument.Order
import ViewCompiler.Proofs.Instrument.Owner
import ViewCompiler.Proofs.Instrument.Parameter
import ViewCompiler.Proofs.Instrument.Plan
import ViewCompiler.Proofs.Instrument.Return
import ViewCompiler.Proofs.Instrument.Rewrap
import ViewCompiler.Proofs.Instrument.Visit
import ViewCompiler.Proofs.Instrument.Wrapper
import ViewCompiler.Proofs.Markup.Name
import ViewCompiler.Proofs.Markup.Nesting
import ViewCompiler.Proofs.Markup.Renumber
import ViewCompiler.Proofs.Markup.Reread
import ViewCompiler.Proofs.Markup.Segment
import ViewCompiler.Proofs.Markup.Tags
import ViewCompiler.Proofs.Markup.Terminator
import ViewCompiler.Proofs.Markup.Touched
import ViewCompiler.Proofs.Markup.Unread
import ViewCompiler.Proofs.Markup.Written
import ViewCompiler.Proofs.Members
import ViewCompiler.Proofs.Script.Address
import ViewCompiler.Proofs.Script.Document
import ViewCompiler.Proofs.Script.Offset
import ViewCompiler.Proofs.Script.Spelling
import ViewCompiler.Proofs.Script.Tree
import ViewCompiler.Proofs.Script.Walk
import ViewCompiler.Proofs.Sequence
import ViewCompiler.Proofs.Template.Condition
import ViewCompiler.Proofs.Template.Creation
import ViewCompiler.Proofs.Template.Element
import ViewCompiler.Proofs.Template.Interpolation
import ViewCompiler.Proofs.Template.Loop
import ViewCompiler.Proofs.Template.Mirror
import ViewCompiler.Proofs.Template.Refusal
import ViewCompiler.Proofs.Template.WellFormed
import ViewCompiler.Proofs.Text.Bytes
import ViewCompiler.Proofs.Text.Case
import ViewCompiler.Proofs.Text.Cut
import ViewCompiler.Proofs.Text.Encoding
import ViewCompiler.Proofs.Text.Ink
import ViewCompiler.Proofs.Text.Layout
import ViewCompiler.Proofs.Text.Literal
import ViewCompiler.Proofs.Text.Position
import ViewCompiler.Proofs.Text.Quoted
import ViewCompiler.Proofs.Text.Rows
import ViewCompiler.Proofs.Text.Strip
import ViewCompiler.Proofs.Text.Words
import ViewCompiler.Proofs.Value.Call
import ViewCompiler.Proofs.Value.Joined
import ViewCompiler.Proofs.Value.Literal
import ViewCompiler.Proofs.Value.Split
import ViewCompiler.Proofs.Writer
import ViewCompiler.Proofs.Writer.Embedding
import ViewCompiler.Proofs.Writer.Stream
import ViewCompiler.Proofs.Writer.Text
import ViewCompiler.Script.Automaton
import ViewCompiler.Script.Construct
import ViewCompiler.Script.Cursor
import ViewCompiler.Script.Derivation
import ViewCompiler.Script.Document
import ViewCompiler.Script.Grammar.Classes
import ViewCompiler.Script.Grammar.Expressions
import ViewCompiler.Script.Grammar.Modules
import ViewCompiler.Script.Grammar.Patterns
import ViewCompiler.Script.Grammar.Rules
import ViewCompiler.Script.Grammar.Statements
import ViewCompiler.Script.Grammar.Strengths
import ViewCompiler.Script.Grammar.Types
import ViewCompiler.Script.Item
import ViewCompiler.Script.Layout
import ViewCompiler.Script.Lexeme
import ViewCompiler.Script.Node
import ViewCompiler.Script.Parse
import ViewCompiler.Script.Production
import ViewCompiler.Script.Reader
import ViewCompiler.Script.Rule
import ViewCompiler.Script.Scan
import ViewCompiler.Script.Stack
import ViewCompiler.Script.State
import ViewCompiler.Script.TokenSet
import ViewCompiler.Settings.Basic
import ViewCompiler.Settings.Literal
import ViewCompiler.Settings.Load
import ViewCompiler.Settings.Source
import ViewCompiler.Template.Condition
import ViewCompiler.Template.Error
import ViewCompiler.Template.Forest
import ViewCompiler.Template.Interpolation
import ViewCompiler.Template.Loop
import ViewCompiler.Template.Node
import ViewCompiler.Template.Parse
import ViewCompiler.Text.Basic
import ViewCompiler.Text.Blank
import ViewCompiler.Text.Bytes
import ViewCompiler.Text.Digit
import ViewCompiler.Text.Indentation
import ViewCompiler.Text.Integer
import ViewCompiler.Text.Invisible
import ViewCompiler.Text.Newline
import ViewCompiler.Text.Position
import ViewCompiler.Text.Quoted
import ViewCompiler.Text.Styled
import ViewCompiler.Text.Word
import ViewCompiler.Value.Basic
import ViewCompiler.Value.Call
import ViewCompiler.Value.Split
import ViewCompiler.Writer
