/-
ScriptLexer.Event — what the lexer reports of a run.

A trace begins with the size of the text and ends with the outcome. Between
them stands a change for every move that ends in another mode than it began
in. The written form of a mode is part of the trace.
-/
import ScriptLexer.Run

namespace ScriptLexer

/-! ## The written form of a mode -/

namespace Mode

/-- The written form of a location inside a mode. -/
def describeLocation (l : Location) : String :=
  "SourceLocation \x7b line: " ++ toString l.line ++ ", column: " ++ toString l.column ++ " \x7d"

/-- The written form of a mode. -/
def describe : Mode → String
  | code => "Scanning"
  | literal quote? opened =>
    "LiteralSegment \x7b terminator: "
      ++ (match quote? with
          | none => "None"
          | some q => "Some(" ++ Text.quotedChar q.char ++ ")")
      ++ ", opened: " ++ describeLocation opened ++ " \x7d"
  | expression q opened =>
    "Expression \x7b terminator: " ++ Text.quotedChar q.char
      ++ ", opened: " ++ describeLocation opened ++ " \x7d"

end Mode

/-! ## Events -/

/-- Something that is reported while a text is lexed. -/
inductive Event where
  /-- A text of `length` characters is about to be read. -/
  | started (filename : String) (length : Nat)
  /-- The move from offset `index` leads to another mode. -/
  | changed (before after : Mode) (index : Nat)
  /-- The text has been read, and has `count` tokens. -/
  | finished (filename : String) (count : Nat)
  /-- The text has no tokens. -/
  | failed (error : LexError)
  deriving DecidableEq, Repr

namespace Event

/-- The change that a move makes, if it makes one. -/
def ofMove? (m : Move) : Option Event :=
  if m.step.next = m.mode then none
  else some (changed m.mode m.step.next m.mark.offset)

/-- The event that ends a trace. -/
def ofOutcome (filename : String) : Except LexError (List Token) → Event
  | .ok tokens => finished filename tokens.length
  | .error e => failed e

end Event

/-- Everything reported while a script is lexed, in order. -/
def trace (text filename : String) : List Event :=
  let run := Run.ofText Recognizer.code text
  .started filename text.length
    :: run.moves.filterMap Event.ofMove? ++ [.ofOutcome filename (run.outcome filename)]

end ScriptLexer
