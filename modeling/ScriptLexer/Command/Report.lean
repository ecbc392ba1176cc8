/-
ScriptLexer.Command.Report — the outputs of the program.

The program lays out an entry of the log as a line with the time, the level,
the message and the named values. In color the level is blue, the names are
slanted, and the time and the equals signs are dim; messages and values are
never colored. Tokens are written as JSON by `Listing.json`.
-/
import ScriptLexer.Command.FileReport
import ScriptLexer.Listing.Json

namespace ScriptLexer.Command

/-! ## The log -/

namespace LogEntry

/-- A text between a terminal's code for a rendition and its code for none. -/
def paint (color : Bool) (rendition text : String) : String :=
  if color then "\x1b[" ++ rendition ++ "m" ++ text ++ "\x1b[0m" else text

/-- The line of an entry after the time, with the newline that ends it. -/
def display (color : Bool) (e : LogEntry) : String :=
  paint color "34" "DEBUG" ++ " " ++ e.message
    ++ String.join (e.fields.map fun field =>
        " " ++ paint color "3" field.1 ++ paint color "2" "=" ++ field.2)
    ++ "\n"

/-- The line of an entry that is written at a time. -/
def dated (color : Bool) (time : String) (e : LogEntry) : String :=
  paint color "2" time ++ " " ++ e.display color

/-- The line of an entry without the time. -/
def undated (color : Bool) (_ : Unit) (e : LogEntry) : String :=
  e.display color

end LogEntry

/-! ## Outputs -/

/-- Tokens as JSON, which is never refused. -/
def tokenArray (ts : List Token) : Except String String :=
  .ok (Listing.json ts)

/-- The texts on the two outputs and the exit code. -/
structure Output where
  out : String
  err : String
  code : Nat
  deriving DecidableEq, Repr

namespace Request

/-- The outputs of a request that is carried out as `clock` goes. -/
def output {Time : Type} (r : Request) (layout : Bool → Time → LogEntry → String)
    (clock : Nat → Time) (read : String → Except ReadFailure ByteArray) : Output :=
  let report := r.reportFiles tokenArray read
  ⟨report.out, Line.displayFrom layout r.color clock 0 report.err, report.code⟩

/-- The outputs of a request, with the times left out of the log. -/
def report (r : Request) (read : String → Except ReadFailure ByteArray) : Output :=
  r.output LogEntry.undated (fun _ => ()) read

end Request

/-! ## The version -/

/-- The name of the program. -/
def programName : String := "macal-lex"

/-- The version of the program. -/
def versionNumber : String := "0.1.0"

/-- The line that names the program, or one task of it, and its version. -/
def versionLine (verb? : Option Verb) : String :=
  (match verb? with
    | none => programName
    | some verb => programName ++ "-" ++ verb.name)
    ++ " " ++ versionNumber ++ "\n"

end ScriptLexer.Command
