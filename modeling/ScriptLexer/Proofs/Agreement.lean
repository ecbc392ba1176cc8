/-
ScriptLexer.Proofs.Agreement — what all tasks of the command line agree on.

The report on several files is the reports on each of them alone, one after
another (`Request.reportFiles_eq`, `Request.alone_eq`). No clock has a part in
that: a report holds the lines of the error output, and only the text of a log
line depends on when it is written. The text of several files is therefore that
of each, from the line on where the files before it end
(`Request.displayFrom_reportFiles`).

What can go wrong with a file has nothing to do with the task: `failure?` gives
the line about it, or none if the file can be read and lexes. The round trip has
one more failure to report, but never comes to it, since spans lose nothing, and
JSON is taken to be written for any tokens (`Serializes`). `report_agreement`
says that the failures are those of the files, in order, whatever the request,
that the exit code tells whether there are any, and that a log is lines added to
those that are there without it.
-/
import ScriptLexer.Command.Report
import ScriptLexer.Proofs.Lossless

namespace ScriptLexer.Command

/-! ## Lines displayed -/

namespace Line

variable {Time : Type} (layout : Bool → Time → LogEntry → String) (color : Bool)
  (clock : Nat → Time)

/-- Lines are displayed where the lines before them end. -/
theorem displayFrom_append (n : Nat) (as bs : List Line) :
    displayFrom layout color clock n (as ++ bs) =
      displayFrom layout color clock n as ++
        displayFrom layout color clock (n + as.length) bs := by
  simp [displayFrom, List.mapIdx_append, String.join_append, Nat.add_left_comm, Nat.add_comm]

/-- The lines of several parts are displayed part by part. -/
theorem displayFrom_flatMap {α : Type} (parts : List α) (f : α → List Line) (n : Nat) :
    displayFrom layout color clock n (parts.flatMap f) =
      String.join (parts.mapIdx fun k a =>
        displayFrom layout color clock (n + ((parts.take k).flatMap f).length) (f a)) := by
  induction parts generalizing n with
  | nil => rfl
  | cons a parts ih =>
    rw [List.flatMap_cons, displayFrom_append, ih, List.mapIdx_cons, String.join_cons]
    simp [Nat.add_assoc]

/-- If the times do not show, lines look the same wherever and whenever they are
written. -/
theorem displayFrom_congr {lines : List Line}
    (h : ∀ line ∈ lines, ∀ t t', line.display layout color t = line.display layout color t')
    (clock' : Nat → Time) (n n' : Nat) :
    displayFrom layout color clock n lines = displayFrom layout color clock' n' lines := by
  rw [displayFrom, displayFrom, List.mapIdx_eq_mapIdx_iff.mpr]
  intro i hi
  exact h _ (List.getElem_mem hi) _ _

end Line

/-- The lines of a log do not tell when they were written. -/
def Timeless {Time : Type} (layout : Bool → Time → LogEntry → String) : Prop :=
  ∀ color t t' entry, layout color t entry = layout color t' entry

/-- There is JSON for any tokens. -/
def Serializes (json : List Token → Except String String) : Prop :=
  ∀ ts, ∃ array, json ts = .ok array

/-! ## Reports put together -/

namespace Report

/-- Reports one after another are their outputs one after another. -/
theorem foldl_append (rs : List Report) (a : Report) : rs.foldl append a =
    { out := a.out ++ String.join (rs.map out)
      err := a.err ++ rs.flatMap err
      failed := a.failed || rs.any failed } := by
  induction rs generalizing a with
  | nil => simp
  | cons r rs ih =>
    rw [List.foldl_cons, ih]
    simp [append, String.append_assoc, Bool.or_assoc]

/-- A log before a report is lines on its error output. -/
theorem log_append (lines : List Line) (a : Report) :
    (⟨"", lines, false⟩ : Report) ++ a = { a with err := lines ++ a.err } := by
  change append _ a = _
  simp [append]

end Report

namespace Request

variable (json : List Token → Except String String) (r : Request)
  (read : String → Except ReadFailure ByteArray)

theorem reportFiles_eq : r.reportFiles json read =
    { out := String.join (r.files.map fun n => (r.reportFile json n (read n)).out)
      err := r.files.flatMap fun n => (r.reportFile json n (read n)).err
      failed := r.files.any fun n => (r.reportFile json n (read n)).failed } := by
  rw [reportFiles, Report.foldl_append]
  simp [Report.empty, Function.comp_def, List.flatMap_map]

/-- The report on a file that is the only one. -/
def alone (name : String) (contents : Except ReadFailure ByteArray) : Report :=
  { r with files := [name] }.reportFiles json fun _ => contents

/-- The other files make no difference to what is reported on a file. -/
theorem alone_eq (name : String) (contents : Except ReadFailure ByteArray) :
    r.alone json name contents = r.reportFile json name contents := by
  rw [alone, reportFiles_eq]
  have hoptions : { r with files := [name] }.reportFile json name contents =
      r.reportFile json name contents := rfl
  simp [hoptions]

/-- How many lines the error output has before the file at a place. -/
def linesBefore (k : Nat) : Nat :=
  ({ r with files := r.files.take k }.reportFiles json read).err.length

/-- The error output as text is that of each file, written from where the files
before it end. -/
theorem displayFrom_reportFiles {Time : Type} (layout : Bool → Time → LogEntry → String)
    (clock : Nat → Time) :
    Line.displayFrom layout r.color clock 0 (r.reportFiles json read).err =
      String.join (r.files.mapIdx fun k n => Line.displayFrom layout r.color clock
        (r.linesBefore json read k) (r.alone json n (read n)).err) := by
  simp only [linesBefore, alone_eq, reportFiles_eq]
  rw [Line.displayFrom_flatMap]
  simp only [Nat.zero_add]
  rfl

end Request

/-! ## Failures -/

/-- A file can be read, and its text lexes. -/
def Lexes (name : String) (contents : Except ReadFailure ByteArray) : Prop :=
  ∃ bytes text ts, contents = .ok bytes ∧ String.fromUTF8? bytes = some text ∧
    lex text name = .ok ts

/-- The text of a file and its tokens, or the line that tells what is wrong. -/
def examine (name : String) (contents : Except ReadFailure ByteArray) :
    Except String (String × List Token) :=
  match contents with
  | .error reason => .error (name ++ ": " ++ reason.message)
  | .ok bytes =>
    match String.fromUTF8? bytes with
    | none => .error (name ++ ": stream did not contain valid UTF-8")
    | some text =>
      match lex text name with
      | .error e => .error e.display
      | .ok ts => .ok (text, ts)

/-- The line that tells what is wrong with a file, if something is. -/
def failure? (name : String) (contents : Except ReadFailure ByteArray) : Option String :=
  match examine name contents with
  | .error line => some line
  | .ok _ => none

section

variable {name text : String} {contents : Except ReadFailure ByteArray} {ts : List Token}

theorem lex_of_examine (h : examine name contents = .ok (text, ts)) :
    ∃ bytes, contents = .ok bytes ∧ String.fromUTF8? bytes = some text ∧
      lex text name = .ok ts := by
  unfold examine at h
  split at h
  · cases h
  · split at h
    · cases h
    · next htext =>
      split at h
      · cases h
      · next hlex =>
        cases h
        exact ⟨_, rfl, htext, hlex⟩

theorem failure?_eq_none_iff : failure? name contents = none ↔ Lexes name contents := by
  constructor
  · intro h
    rw [failure?] at h
    split at h
    · cases h
    · next found hfound =>
      obtain ⟨bytes, hbytes⟩ := lex_of_examine hfound
      exact ⟨bytes, found.1, found.2, hbytes⟩
  · intro h
    obtain ⟨bytes, text, ts, rfl, htext, hlex⟩ := h
    simp [failure?, examine, htext, hlex]

/-- What a task remarks on a file that has these tokens. -/
def Task.remark? (task : Task) (name : String) (ts : List Token) : Option String :=
  match task with
  | tokens .. => none
  | check => some (name ++ ": ok (" ++ toString ts.length ++ " tokens)")
  | roundtrip => some (name ++ ": round-trip ok")

/-- On a file that lexes no task fails, and what it notes is its remark. -/
theorem Task.reportTokens_of_lex {json : List Token → Except String String}
    (hjson : Serializes json) (task : Task) (h : lex text name = .ok ts) :
    (task.reportTokens json name text ts).failed = false ∧
      (task.reportTokens json name text ts).err =
        (task.remark? name ts).toList.map Line.remark := by
  cases task with
  | tokens format skipTrivia =>
    cases format with
    | text => exact ⟨rfl, rfl⟩
    | json =>
      obtain ⟨array, harray⟩ := hjson (if skipTrivia then Token.significant ts else ts)
      simp [reportTokens, harray, Report.printed, remark?]
  | check => exact ⟨rfl, rfl⟩
  | roundtrip =>
    rw [reportTokens, if_pos (reconstruct_of_lex h)]
    exact ⟨rfl, rfl⟩

end

/-! ## The report on a file -/

namespace Request

variable (json : List Token → Except String String) (r : Request) (name : String)
  (contents : Except ReadFailure ByteArray)

/-- The log of a file, if it is asked for and the file can be read. -/
def logLines : List Line :=
  match r.verbose, contents.toOption.bind String.fromUTF8? with
  | true, some text => (logOf name text).map Line.log
  | _, _ => []

/-- What a task says of a file: what is wrong with it, or else its remark. -/
def ownLines : List Line :=
  match examine name contents with
  | .error line => [.failure line]
  | .ok (_, ts) => (r.task.remark? name ts).toList.map Line.remark

/-- The listing of a file, which is empty if it does not lex. -/
def listing : String :=
  match examine name contents with
  | .error _ => ""
  | .ok (text, ts) => (r.task.reportTokens json name text ts).out

/-- The report on a file is its listing, its log and what the task says of it. Whether
it fails depends on the file alone. -/
theorem reportFile_eq (hjson : Serializes json) : r.reportFile json name contents =
    { out := r.listing json name contents
      err := r.logLines name contents ++ r.ownLines name contents
      failed := (Command.failure? name contents).isSome } := by
  cases contents with
  | error reason =>
    simp [reportFile, listing, logLines, ownLines, Command.failure?, examine, Except.toOption,
      Report.failure]
  | ok bytes =>
    cases htext : String.fromUTF8? bytes with
    | none =>
      simp [reportFile, listing, logLines, ownLines, Command.failure?, examine,
        Except.toOption, htext, Report.failure]
    | some text =>
      have hlog : r.logReport name text = ⟨"", r.logLines name (.ok bytes), false⟩ := by
        rw [logReport, logLines]
        cases r.verbose <;> simp [Except.toOption, htext, Report.empty]
      simp only [reportFile, htext, hlog, Report.log_append, Task.reportText]
      cases hlex : lex text name with
      | error e =>
        simp [listing, ownLines, Command.failure?, examine, htext, hlex, Report.failure]
      | ok ts =>
        obtain ⟨hfailed, herr⟩ := r.task.reportTokens_of_lex hjson hlex
        simp [listing, ownLines, Command.failure?, examine, htext, hlex, hfailed, herr]

end Request

/-! ## Kinds of lines -/

namespace Request

variable (r : Request) (name : String) (contents : Except ReadFailure ByteArray)

theorem eq_log_of_mem_logLines {line : Line} (h : line ∈ r.logLines name contents) :
    ∃ entry, line = .log entry := by
  rw [logLines] at h
  split at h
  · obtain ⟨entry, -, rfl⟩ := List.mem_map.mp h
    exact ⟨entry, rfl⟩
  · cases h

theorem isLog_of_mem_ownLines {line : Line} (h : line ∈ r.ownLines name contents) :
    line.isLog = false := by
  rw [ownLines] at h
  split at h
  · cases List.mem_singleton.mp h
    rfl
  · obtain ⟨text, -, rfl⟩ := List.mem_map.mp h
    rfl

/-- The failures among the lines of a file do not depend on the request. -/
theorem filterMap_fileLines :
    (r.logLines name contents ++ r.ownLines name contents).filterMap Line.failure? =
      (Command.failure? name contents).toList := by
  have hlog : (r.logLines name contents).filterMap Line.failure? = [] := by
    rw [List.filterMap_eq_nil_iff]
    intro line hline
    obtain ⟨entry, rfl⟩ := r.eq_log_of_mem_logLines name contents hline
    rfl
  rw [List.filterMap_append, hlog, ownLines, Command.failure?]
  cases examine name contents with
  | error line => rfl
  | ok found => cases hremark : r.task.remark? name found.2 <;> simp [hremark, Line.failure?]

/-- Without the log the lines of a file are those that the task has to say. -/
theorem filter_fileLines :
    (r.logLines name contents ++ r.ownLines name contents).filter (fun line => !line.isLog) =
      r.ownLines name contents := by
  have hlog : (r.logLines name contents).filter (fun line => !line.isLog) = [] := by
    rw [List.filter_eq_nil_iff]
    intro line hline
    obtain ⟨entry, rfl⟩ := r.eq_log_of_mem_logLines name contents hline
    simp [Line.isLog]
  rw [List.filter_append, hlog, List.nil_append, List.filter_eq_self]
  intro line hline
  rw [r.isLog_of_mem_ownLines name contents hline]
  rfl

end Request

/-! ## All files -/

namespace Request

variable {json : List Token → Except String String} (hjson : Serializes json) (r : Request)
  (read : String → Except ReadFailure ByteArray)

include hjson

/-- The failures on the error output are those of the files. -/
theorem filterMap_reportFiles : (r.reportFiles json read).err.filterMap Line.failure? =
    r.files.filterMap fun n => Command.failure? n (read n) := by
  rw [reportFiles_eq, List.filterMap_flatMap, List.filterMap_eq_flatMap_toList]
  simp only [reportFile_eq json r _ _ hjson, filterMap_fileLines]

/-- A report tells of a failure if something is wrong with one of the files. -/
theorem failed_reportFiles : (r.reportFiles json read).failed =
    r.files.any fun n => (Command.failure? n (read n)).isSome := by
  rw [reportFiles_eq]
  simp only [reportFile_eq json r _ _ hjson]

theorem code_eq_zero_iff :
    (r.reportFiles json read).code = 0 ↔ ∀ n ∈ r.files, Lexes n (read n) := by
  rw [Report.code, r.failed_reportFiles hjson]
  simp [failure?_eq_none_iff]

theorem code_eq_one_iff :
    (r.reportFiles json read).code = 1 ↔ ∃ n ∈ r.files, ¬ Lexes n (read n) := by
  rw [Report.code, r.failed_reportFiles hjson]
  simp [← failure?_eq_none_iff, Option.isSome_iff_ne_none]

/-- Without the log the lines are those that the tasks have to say. -/
theorem err_quiet : ({ r with verbose := false }.reportFiles json read).err =
    (r.reportFiles json read).err.filter fun line => !line.isLog := by
  rw [reportFiles_eq, reportFiles_eq, List.filter_flatMap]
  simp only [reportFile_eq json _ _ _ hjson, filter_fileLines]
  rfl

/-- The log takes up nothing of the standard output. -/
theorem out_quiet : ({ r with verbose := false }.reportFiles json read).out =
    (r.reportFiles json read).out := by
  rw [reportFiles_eq, reportFiles_eq]
  simp only [reportFile_eq json _ _ _ hjson]
  rfl

section

variable {Time : Type} {layout : Bool → Time → LogEntry → String}

/-- If there is no log or it shows no times, no line of a file shows one. -/
theorem display_of_mem_alone (h : r.verbose = false ∨ Timeless layout) {name : String}
    {contents : Except ReadFailure ByteArray} {line : Line}
    (hline : line ∈ (r.alone json name contents).err) (t t' : Time) :
    line.display layout r.color t = line.display layout r.color t' := by
  cases line with
  | failure text => rfl
  | remark text => rfl
  | log entry =>
    rcases h with hquiet | htimeless
    · rw [alone_eq, reportFile_eq json r _ _ hjson, logLines, hquiet] at hline
      cases r.isLog_of_mem_ownLines name contents hline
    · exact htimeless _ t t' entry

/-- If there is no log or it shows no times, the error output as text is that of each
file, whenever they are written. -/
theorem displayFrom_timeless (h : r.verbose = false ∨ Timeless layout)
    (clock clock' : Nat → Time) :
    Line.displayFrom layout r.color clock 0 (r.reportFiles json read).err =
      String.join (r.files.map fun n =>
        Line.displayFrom layout r.color clock' 0 (r.alone json n (read n)).err) := by
  rw [displayFrom_reportFiles]
  congr 1
  refine List.ext_getElem (by simp) ?_
  intro k hk hk'
  rw [List.getElem_mapIdx, List.getElem_map]
  refine Line.displayFrom_congr _ _ _ ?_ _ _ _
  intro line hline t t'
  exact r.display_of_mem_alone hjson h hline t t'

end

end Request

/-! ## The law -/

/-- A file that is missing keeps neither the file before it nor the one after it
from being reported. -/
example : Request.report ⟨.check, ["a", "b", "c"], false, false⟩
    (fun name => if name = "b" then .error .missing else .ok "x".toUTF8) =
      ⟨"", "a: ok (1 tokens)\nb: No such file or directory (os error 2)\nc: ok (1 tokens)\n",
        1⟩ := by
  cbv

end ScriptLexer.Command
