/-
ScriptLexer.Proofs.Relocation — the same text in another place.

The lexer looks at the text in front of it and never at where it stands: it
only reports the place. So a text that begins at another mark is read by the
same moves, and what they report is moved along with it (`Run.of_relocate`).

Places do not move as vectors do. The first line of a text goes on where the
text before it stopped, and every later line begins at the first column
again, so `Location.relocate` moves a place sideways only on the first line.
It goes along with the reading of a character (`relocate_after`) where lines
and columns are counted from 1, and they are wherever the lexer comes
(`Regular.advance`).
-/
import ScriptLexer.Proofs.Path

namespace ScriptLexer

/-! ## Locations -/

namespace Location

/-- Line and column are counted from 1. -/
def Regular (l : Location) : Prop :=
  1 ≤ l.line ∧ 1 ≤ l.column

/-- Where the place `x` of a text lies when the text begins at `base`. -/
def relocate (base x : Location) : Location :=
  if x.line = 1 then ⟨base.line, base.column + x.column - 1⟩
  else ⟨base.line + x.line - 1, x.column⟩

theorem regular_start : start.Regular :=
  ⟨Nat.le_refl 1, Nat.le_refl 1⟩

theorem Regular.after {l : Location} (h : l.Regular) (c : Char) : (l.after c).Regular := by
  obtain ⟨hline, hcolumn⟩ := h
  unfold Location.after
  split
  · exact ⟨by simp, by simp⟩
  · split
    · exact ⟨hline, Nat.le_add_right_of_le hcolumn⟩
    · exact ⟨hline, Nat.le_add_right_of_le hcolumn⟩

theorem Regular.advance {l : Location} (h : l.Regular) (text : List Char) :
    (l.advance text).Regular := by
  induction text generalizing l with
  | nil => exact h
  | cons c cs ih => exact ih (h.after c)

theorem relocate_of_first (base : Location) (column : Nat) :
    base.relocate ⟨1, column⟩ = ⟨base.line, base.column + column - 1⟩ := rfl

theorem relocate_of_later (base : Location) {line : Nat} (h : 1 < line) (column : Nat) :
    base.relocate ⟨line, column⟩ = ⟨base.line + line - 1, column⟩ :=
  if_neg (Nat.ne_of_gt h)

/-- A character moves the place in the one text as it does in the other. -/
theorem relocate_after (base : Location) {x : Location} (h : x.Regular) (c : Char) :
    base.relocate (x.after c) = (base.relocate x).after c := by
  obtain ⟨line, column⟩ := x
  obtain ⟨hline, hcolumn⟩ : 1 ≤ line ∧ 1 ≤ column := h
  -- after a newline both are on a later line; otherwise the line stays, and with it the case
  by_cases hnewline : c = '\n'
  · have hlater : 1 < line + 1 := by omega
    rcases Nat.eq_or_lt_of_le hline with rfl | hline
    · simp [after, hnewline, relocate_of_first, relocate_of_later _ hlater]
    · have hsum : base.line + (line + 1) - 1 = base.line + line - 1 + 1 := by omega
      simp [after, hnewline, relocate_of_later _ hline, relocate_of_later _ hlater, hsum]
  · obtain ⟨width, hwidth⟩ : ∃ width, ∀ l : Location, l.after c = ⟨l.line, l.column + width⟩ := by
      by_cases htab : c = '\t'
      · exact ⟨tabWidth, fun l => by simp [after, htab]⟩
      · exact ⟨1, fun l => by simp [after, hnewline, htab]⟩
    rcases Nat.eq_or_lt_of_le hline with rfl | hline
    · have hsum : base.column + (column + width) - 1 = base.column + column - 1 + width := by
        omega
      simp [hwidth, relocate_of_first, hsum]
    · simp [hwidth, relocate_of_later _ hline]

theorem relocate_advance (base : Location) {x : Location} (h : x.Regular) (text : List Char) :
    base.relocate (x.advance text) = (base.relocate x).advance text := by
  induction text generalizing x with
  | nil => rfl
  | cons c cs ih => rw [advance_cons, advance_cons, ih (h.after c), relocate_after base h]

end Location

/-! ## What has a place -/

/-- A mark of a text that begins at the mark `base`. -/
def Mark.relocate (base m : Mark) : Mark :=
  ⟨base.offset + m.offset, base.location.relocate m.location⟩

theorem Mark.relocate_advance (base : Mark) {m : Mark} (h : m.location.Regular)
    (text : List Char) : base.relocate (m.advance text) = (base.relocate m).advance text := by
  simp [relocate, advance, Location.relocate_advance _ h, Nat.add_assoc]

/-- A mode moves with the `$` that it remembers. -/
def Mode.relocate (base : Location) : Mode → Mode
  | code => code
  | literal quote? opened => literal quote? (base.relocate opened)
  | expression q opened => expression q (base.relocate opened)

def Fault.relocate (base : Location) (f : Fault) : Fault :=
  { f with location := base.relocate f.location }

def Step.relocate (base : Location) (s : Step) : Step :=
  { s with next := s.next.relocate base }

def Move.relocate (base : Mark) (m : Move) : Move :=
  ⟨base.relocate m.mark, m.mode.relocate base.location, m.step.relocate base.location⟩

def Run.relocate (base : Mark) (r : Run) : Run :=
  { moves := r.moves.map (Move.relocate base)
    fault? := r.fault?.map (Fault.relocate base.location) }

/-- A token of a text that begins at the mark `base`. -/
def Token.relocate (base : Mark) (t : Token) : Token :=
  { t with start := base.offset + t.start, location := base.location.relocate t.location }

/-- An error in a text that begins at `base`. -/
def LexError.relocate (base : Location) (e : LexError) : LexError :=
  { e with location? := e.location?.map base.relocate }

@[simp] theorem coveredText_relocate (base : Mark) (ms : List Move) :
    coveredText (ms.map (Move.relocate base)) = coveredText ms := by
  rw [coveredText, List.flatMap_map]
  rfl

theorem Move.token?_relocate (base : Mark) (filename : String) (m : Move) :
    (m.relocate base).token? filename = (m.token? filename).map (Token.relocate base) := by
  rw [Move.token?, Move.token?, Option.map_map]
  rfl

theorem Mode.atEnd_relocate (base : Location) (mode : Mode) :
    (mode.relocate base).atEnd = mode.atEnd.map (Fault.relocate base) := by
  cases mode <;> rfl

/-! ## Steps, paths and runs -/

section

variable {mode mode' : Mode} {here : Location} {next? : Option Char}

theorem Mode.Takes.relocate {s : Step} (h : mode.Takes here s next?) (base : Location) :
    (mode.relocate base).Takes (base.relocate here) (s.relocate base) next? := by
  cases h with
  | token hspells happart => exact .token hspells happart
  | inner hspells happart hbrace => exact .inner hspells happart hbrace
  | start => exact .start
  | nested => exact .nested
  | close hsingle => exact .close hsingle
  | text hentry hunits hne => exact .text hentry hunits hne
  | brace hentry hunits hsingle => exact .brace hentry hunits hsingle
  | finish => exact .finish

theorem Mode.ReadsCode.relocate (h : mode.ReadsCode) (base : Location) :
    (mode.relocate base).ReadsCode := by
  cases h with
  | code => exact .code
  | expression q opened => exact .expression q _

theorem Mode.Faults.relocate {cs : List Char} {fault : Fault} (h : mode.Faults here cs fault)
    (base : Location) :
    (mode.relocate base).Faults (base.relocate here) cs (fault.relocate base) := by
  cases h with
  | string hmode hbody => exact .string (hmode.relocate base) hbody
  | character hmode hc hdollar => exact .character (hmode.relocate base) hc hdollar
  | terminator hquote => exact .terminator hquote
  | text hentry hne hscan => exact .text hentry hne hscan

theorem Stops.relocate {r : List Char} {fault? : Option Fault} (h : Stops mode here r fault?)
    (base : Location) :
    Stops (mode.relocate base) (base.relocate here) r (fault?.map (Fault.relocate base)) := by
  cases h with
  | atEnd =>
    rw [← Mode.atEnd_relocate]
    exact .atEnd
  | fault hfault => exact .fault (hfault.relocate base)

theorem Path.relocate {mark : Mark} {ms : List Move} (h : Path mode mark ms mode' next?)
    (hmark : mark.location.Regular) (base : Mark) :
    Path (mode.relocate base.location) (base.relocate mark) (ms.map (Move.relocate base))
      (mode'.relocate base.location) next? := by
  induction h with
  | nil => exact .nil
  | cons htakes _ ih =>
    refine .cons ?_ ?_
    · rw [coveredText_relocate]
      exact htakes.relocate base.location
    · have hrest := ih (hmark.advance _)
      rw [Mark.relocate_advance base hmark] at hrest
      exact hrest

/-- **Relocation**: a text that begins at another mark is read by the moves
that it is read by at the first, moved along with it. -/
theorem Run.of_relocate (base : Mark) (mode : Mode) {mark : Mark} (hmark : mark.location.Regular)
    (input : List Char) :
    of Recognizer.code (mode.relocate base.location) (base.relocate mark) input =
      (of Recognizer.code mode mark input).relocate base := by
  obtain ⟨mode', r, htext, hpath, hstops⟩ := exists_path mode mark input
  refine run_eq_iff.mpr ⟨mode'.relocate base.location, r, ?_, hpath.relocate hmark base, ?_⟩
  · rw [coveredText_relocate]
    exact htext
  · have hmoved := hstops.relocate base.location
    rw [Mark.location_advance, Location.relocate_advance _ hmark] at hmoved
    rw [coveredText_relocate]
    exact hmoved

/-- A text read from a mark on is the text by itself, moved to the mark. -/
theorem Run.of_code_eq_relocate (base : Mark) (text : String) :
    of Recognizer.code .code base text.toList =
      (ofText Recognizer.code text).relocate base := by
  have hstart : Mark.start.location.Regular := Location.regular_start
  exact of_relocate base .code hstart text.toList

end

/-- The tokens, or the error, of a run that begins at another mark. -/
theorem Run.outcome_relocate (base : Mark) (filename : String) (r : Run) :
    (r.relocate base).outcome filename =
      match r.outcome filename with
      | .ok ts => .ok (ts.map (Token.relocate base))
      | .error e => .error (e.relocate base.location) := by
  obtain ⟨ms, fault?⟩ := r
  cases fault? with
  | none =>
    have htokens : (ms.map (Move.relocate base)).filterMap (Move.token? filename) =
        (ms.filterMap (Move.token? filename)).map (Token.relocate base) := by
      rw [List.filterMap_map, List.map_filterMap]
      congr 1
      exact funext fun m => m.token?_relocate base filename
    simp [relocate, outcome, tokens, htokens]
  | some fault => simp [relocate, outcome, LexError.relocate, Fault.relocate]

end ScriptLexer
