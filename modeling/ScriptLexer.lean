import ScriptLexer.Main
import ScriptLexer.Source
import ScriptLexer.Proofs.Lossless
import ScriptLexer.Proofs.Template
import ScriptLexer.Proofs.Composition
import ScriptLexer.Proofs.Viability
import ScriptLexer.Proofs.Interpolation
import ScriptLexer.Proofs.Blame
import ScriptLexer.Proofs.Coverage
import ScriptLexer.Proofs.Trivia
import ScriptLexer.Proofs.Locality
import ScriptLexer.Proofs.Trace
import ScriptLexer.Proofs.Agreement
import ScriptLexer.Proofs.Progress
import ScriptLexer.Proofs.Placement
import ScriptLexer.Proofs.LexicalClass
import ScriptLexer.Proofs.Quotation
import ScriptLexer.Proofs.Dollar
import ScriptLexer.Proofs.Braces
import ScriptLexer.Proofs.Priority
import ScriptLexer.Proofs.Slicing
import ScriptLexer.Proofs.Readability
import ScriptLexer.Proofs.Escape
import ScriptLexer.Proofs.Decoding
