import TextEditor.Buffer.Check
import TextEditor.Editor.Rendering
import TextEditor.Grammar.Registry
import TextEditor.Proofs.Buffer.InStep
import TextEditor.Proofs.Buffer.Splices
import TextEditor.Proofs.Editor.Balanced
import TextEditor.Proofs.Editor.Dirty
import TextEditor.Proofs.Editor.InView
import TextEditor.Proofs.Editor.LettingGo
import TextEditor.Proofs.Editor.Prompts
import TextEditor.Proofs.Editor.Quitting
import TextEditor.Proofs.Editor.Searching
import TextEditor.Proofs.Editor.Streaming
import TextEditor.Proofs.Guarded.Operation
import TextEditor.Proofs.Highlighter.Layout
import TextEditor.Proofs.Grammar.Priority
import TextEditor.Proofs.Stream.Filling
import TextEditor.Proofs.Json.Syntax
import TextEditor.Proofs.Pattern.Taking
import TextEditor.Proofs.Json.Patterns
import TextEditor.Proofs.Json.Layout
import TextEditor.Proofs.Json.Literals
import TextEditor.Proofs.Json.Lexing
import TextEditor.Proofs.Editor.Overlooking
import TextEditor.Proofs.Highlighter.Embedding
import TextEditor.Proofs.Screen.Marks
import TextEditor.Proofs.Screen.Measuring
import TextEditor.Proofs.Editor.Stepping
import TextEditor.Proofs.Editor.Dedenting
import TextEditor.Proofs.Grammar.Keywords
import TextEditor.Proofs.Stream.Counting
import TextEditor.Proofs.Editor.Crossing
import TextEditor.Proofs.Text.Scanning
import TextEditor.Proofs.Buffer.RoundTrip
import TextEditor.Proofs.Highlighter.Choosing
import TextEditor.Proofs.Editor.TakingBack
import TextEditor.Proofs.Stream.Coming
import TextEditor.Proofs.Editor.Formatting
import TextEditor.Proofs.Screen.Scrolling
import TextEditor.Proofs.Buffer.Tokenizing
import TextEditor.Proofs.Prompt.Commands
import TextEditor.Proofs.Grammar.Registering
import TextEditor.Proofs.Grammar.Neighbours
import TextEditor.Proofs.Typing.WordJumps
import TextEditor.Proofs.Typing.BlockKeywords
