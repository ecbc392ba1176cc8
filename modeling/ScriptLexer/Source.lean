/-
ScriptLexer.Source — a text and the name it is lexed under.

Both parts may still be missing. A source without a text is refused first,
under the filename it has; one without a filename is refused next.
-/
import ScriptLexer.Run

namespace ScriptLexer

/-- A text and a filename, each given or not. An empty one is given. -/
structure Source where
  text? : Option String
  filename? : Option String
  deriving DecidableEq, Repr

namespace Source

/-- The source of which nothing is given. -/
def blank : Source := ⟨none, none⟩

instance : Inhabited Source := ⟨blank⟩

/-- The source with another text. -/
def withText (s : Source) (text : String) : Source :=
  { s with text? := some text }

/-- The source with another filename. -/
def withFilename (s : Source) (filename : String) : Source :=
  { s with filename? := some filename }

/-- The tokens of a source, if nothing is missing and its text lexes. -/
def lex (s : Source) : Except LexError (List Token) :=
  match s.text?, s.filename? with
  | none, filename? => .error ⟨.missingText, filename?.getD "", none⟩
  | some _, none => .error ⟨.missingFilename, "", none⟩
  | some text, some filename => ScriptLexer.lex text filename

/-- The written form of a part. -/
def describePart : Option String → String
  | none => "None"
  | some text => "Some(" ++ Text.quoted text ++ ")"

/-- The written form of a source. -/
def describe (s : Source) : String :=
  "Source \x7b text: " ++ describePart s.text? ++ ", filename: " ++ describePart s.filename?
    ++ " \x7d"

end Source

end ScriptLexer
