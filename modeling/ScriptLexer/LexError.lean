/-
ScriptLexer.LexError — why a text has no tokens.

A `Cause` says what is wrong; a `LexError` adds the file, and the place if
there is one. The wording of both is here and nowhere else.
-/
import ScriptLexer.Location
import ScriptLexer.Text.Quoted

namespace ScriptLexer

/-- What keeps a text from being lexed. -/
inductive Cause where
  /-- There is no text to lex. -/
  | missingText
  /-- There is no filename to report under. -/
  | missingFilename
  /-- The text ends inside a string that `terminator` would close. -/
  | unterminatedString (terminator : Char)
  /-- The text ends inside an interpolated string or one of its expressions. -/
  | unterminatedInterpolation
  /-- An interpolated string opens with a character that is no quotation mark. -/
  | invalidTerminator (found : Char)
  /-- A step of the lexer read nothing. -/
  | stuck
  /-- No token begins with this character. -/
  | unexpectedCharacter (found : Char)
  deriving DecidableEq, Repr

namespace Cause

/-- What is wrong, in words. -/
def message : Cause → String
  | missingText => "no source code to analyze"
  | missingFilename => "no filename provided"
  | unterminatedString terminator =>
    "unterminated string, expected closing " ++ terminator.toString
  | unterminatedInterpolation => "unterminated interpolated string"
  | invalidTerminator found =>
    "invalid string terminator (" ++ Text.quotedChar found ++ ") found"
  | stuck => "stuck in lexer analysis loop"
  | unexpectedCharacter found =>
    "unexpected end of file, no token starts with " ++ Text.quotedChar found

/-- The character that a cause names. -/
def char? : Cause → Option Char
  | unterminatedString c | invalidTerminator c | unexpectedCharacter c => some c
  | _ => none

end Cause

/-- A cause, the file it was met in, and the place. -/
structure LexError where
  cause : Cause
  filename : String
  location? : Option Location
  deriving DecidableEq, Repr

namespace LexError

/-- What is wrong, without the file and the place. -/
def message (e : LexError) : String :=
  e.cause.message

/-- The whole report, as in
`a.mcl: unterminated interpolated string at line 1, column 5`. -/
def display (e : LexError) : String :=
  e.filename ++ ": " ++ e.message ++
    match e.location? with
    | none => ""
    | some l => " at line " ++ toString l.line ++ ", column " ++ toString l.column

end LexError

end ScriptLexer
