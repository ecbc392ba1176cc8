/-
ScriptLexer.Command.FileReport — what a request says of its files.

Every file is reported on its own, from its name and what reading it gave,
and the report on several files is theirs put together. A file that fails
does not keep the next from being reported.

Two things are left open here, since others decide them: how tokens are
written as JSON (`json`, which may also give a reason why it cannot), and how
an entry of the log is laid out at the time when it is written (`layout`). So
the error output of a report is a list of lines. Its text is known once a
clock says when each of them is written (`Line.displayFrom`).
-/
import ScriptLexer.Command.Log
import ScriptLexer.Command.Request
import ScriptLexer.Listing.Table
import ScriptLexer.Span

namespace ScriptLexer.Command

/-! ## Lines -/

/-- A line of the error output. -/
inductive Line where
  /-- An entry of the log. -/
  | log (entry : LogEntry)
  /-- What is wrong with a file. -/
  | failure (text : String)
  /-- What a task has found out about a file that lexes. -/
  | remark (text : String)
  deriving DecidableEq, Repr

namespace Line

/-- What is wrong with a file, if the line tells of that. -/
def failure? : Line → Option String
  | failure text => some text
  | _ => none

/-- Whether a line belongs to the log. -/
def isLog : Line → Bool
  | log _ => true
  | _ => false

section

variable {Time : Type} (layout : Bool → Time → LogEntry → String) (color : Bool)

/-- The text of a line that is written at a time, with the newline that ends it. The
lines outside the log are never colored and show no time. -/
def display (time : Time) : Line → String
  | log entry => layout color time entry
  | failure text | remark text => text ++ "\n"

/-- The text of lines, of which the first is line `n` of the error output. Line `i`
is written when the clock shows `clock i`. -/
def displayFrom (clock : Nat → Time) (n : Nat) (lines : List Line) : String :=
  String.join (lines.mapIdx fun i line => line.display layout color (clock (n + i)))

end

end Line

/-! ## Reports -/

/-- Text for the standard output, lines for the error output, and whether something
failed. -/
structure Report where
  out : String
  err : List Line
  failed : Bool
  deriving DecidableEq, Repr

namespace Report

/-- The report on nothing. -/
def empty : Report := ⟨"", [], false⟩

/-- One report after another. -/
def append (a b : Report) : Report :=
  ⟨a.out ++ b.out, a.err ++ b.err, a.failed || b.failed⟩

instance : Append Report := ⟨append⟩

/-- A line on the standard output. -/
def printed (line : String) : Report := ⟨line ++ "\n", [], false⟩

/-- A remark on the error output. -/
def noted (line : String) : Report := ⟨"", [.remark line], false⟩

/-- A line on the error output that tells of a failure. -/
def failure (line : String) : Report := ⟨"", [.failure line], true⟩

/-- The exit code of a program that reports so. -/
def code (r : Report) : Nat :=
  if r.failed then 1 else 0

end Report

/-! ## One file -/

/-- Why a file has no contents. -/
inductive ReadFailure where
  | missing
  | directory
  | other (details : String)
  deriving DecidableEq, Repr

/-- The reason in words. -/
def ReadFailure.message : ReadFailure → String
  | missing => "No such file or directory (os error 2)"
  | directory => "Is a directory (os error 21)"
  | other details => details

section

variable (json : List Token → Except String String)

/-- The report of a task on the tokens of a file. -/
def Task.reportTokens (task : Task) (name text : String) (ts : List Token) : Report :=
  match task with
  | tokens format skipTrivia =>
    let shown := if skipTrivia then Token.significant ts else ts
    match format with
    | .text => ⟨Listing.table shown, [], false⟩
    | .json =>
      match json shown with
      | .ok array => .printed array
      | .error reason => .failure (name ++ ": " ++ reason)
  | check => .noted (name ++ ": ok (" ++ toString ts.length ++ " tokens)")
  | roundtrip =>
    if reconstruct text ts = text then .noted (name ++ ": round-trip ok")
    else .failure (name ++ ": round-trip mismatch")

/-- The report of a task on the text of a file. -/
def Task.reportText (task : Task) (name text : String) : Report :=
  match lex text name with
  | .error e => .failure e.display
  | .ok ts => task.reportTokens json name text ts

/-- The log of a file that has been read. -/
def logOf (name text : String) : List LogEntry :=
  .ofRead name text.utf8ByteSize :: (trace text name).filterMap LogEntry.ofEvent?

namespace Request

/-- The log of a file as far as it is asked for. -/
def logReport (r : Request) (name text : String) : Report :=
  if r.verbose then ⟨"", (logOf name text).map Line.log, false⟩ else .empty

/-- The report on one file, of which reading gave `contents`. -/
def reportFile (r : Request) (name : String) (contents : Except ReadFailure ByteArray) :
    Report :=
  match contents with
  | .error reason => .failure (name ++ ": " ++ reason.message)
  | .ok bytes =>
    match String.fromUTF8? bytes with
    | none => .failure (name ++ ": stream did not contain valid UTF-8")
    | some text => r.logReport name text ++ r.task.reportText json name text

/-! ## All files -/

/-- The report on all files, in order, where `read` gives the contents of
each. -/
def reportFiles (r : Request) (read : String → Except ReadFailure ByteArray) : Report :=
  (r.files.map fun name => r.reportFile json name (read name)).foldl Report.append .empty

end Request

end

end ScriptLexer.Command
