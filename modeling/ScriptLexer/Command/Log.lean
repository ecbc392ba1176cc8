/-
ScriptLexer.Command.Log — the log that a verbose run keeps.

An entry is a message with named values. When it is written, and how its line
looks, is not its own affair.
-/
import ScriptLexer.Event

namespace ScriptLexer.Command

/-- A message with named values. -/
structure LogEntry where
  message : String
  fields : List (String × String)
  deriving DecidableEq, Repr

namespace LogEntry

/-- The entry for a file that has been read. -/
def ofRead (name : String) (bytes : Nat) : LogEntry :=
  ⟨"read source", [("path", name), ("bytes", toString bytes)]⟩

/-- The entry for an event. A change of mode is too fine for the log. -/
def ofEvent? : Event → Option LogEntry
  | .started filename length =>
    some ⟨"lexing source", [("filename", filename), ("length", toString length)]⟩
  | .changed .. => none
  | .finished filename count =>
    some ⟨"lexing finished", [("filename", filename), ("tokens", toString count)]⟩
  | .failed e => some ⟨"lexing failed", [("error", e.display)]⟩

end LogEntry

end ScriptLexer.Command
