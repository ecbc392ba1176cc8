/-
ScriptLexer.Proofs.Placement — where tokens stand.

A token has an offset and a location, and the location is that of the offset
(`lex_placed`). The line counts the newlines before it. The column measures the
text since the last of them, in which a tab takes four columns and every other
character takes one (`Location.advance_start`).

The lexer carries offset and location side by side and never goes back in the
text. That the two agree is a matter of moves and not of tokens: every move of a
run begins at the mark of the text before it (`Run.mark_of_mem`), whether it makes
a token or not, and also where the text turns out not to lex. Since no character
leaves the location where it was (`Location.lt_after`), tokens one after another
in the text have greater and greater locations.
-/
import Mathlib
import ScriptLexer.Proofs.Lossless

namespace ScriptLexer

namespace Location

/-! ## Lines and columns -/

/-- The columns that a character takes on its line. -/
def columns (c : Char) : Nat :=
  if c = '\t' then tabWidth else 1

/-- What a text has on its last line. -/
def lastLine (text : List Char) : List Char :=
  text.rtakeWhile (· ≠ '\n')

theorem after_newline (l : Location) : l.after '\n' = ⟨l.line + 1, 1⟩ := rfl

theorem after_of_ne {c : Char} (h : c ≠ '\n') (l : Location) :
    l.after c = ⟨l.line, l.column + columns c⟩ := by
  unfold after columns
  rw [if_neg h]
  split <;> rfl

/-- A text read from the start ends on the line after its last newline, behind the
columns of what it has on that line. -/
theorem advance_start (text : List Char) :
    start.advance text =
      ⟨1 + text.count '\n', 1 + ((lastLine text).map columns).sum⟩ := by
  -- the last character alone decides whether the line goes on
  induction text using List.reverseRecOn with
  | nil => rfl
  | append_singleton text c ih =>
    rw [advance_append, ih, advance_cons, advance_nil]
    by_cases h : c = '\n'
    · subst h
      simp [after_newline, lastLine, Nat.add_assoc]
    · simp [after_of_ne h, lastLine, h, Nat.add_assoc]

/-! ## Reading order -/

theorem lt_trans {a b c : Location} (hab : a < b) (hbc : b < c) : a < c := by
  rw [lt_iff] at hab hbc ⊢
  omega

/-- Every character leads to a greater location. -/
theorem lt_after (l : Location) (c : Char) : l < l.after c := by
  rw [lt_iff]
  unfold after
  split
  · exact .inl (Nat.lt_succ_self _)
  · split
    · exact .inr ⟨rfl, Nat.lt_add_of_pos_right (by decide)⟩
    · exact .inr ⟨rfl, Nat.lt_succ_self _⟩

theorem lt_advance (l : Location) {text : List Char} (h : text ≠ []) : l < l.advance text := by
  induction text generalizing l with
  | nil => exact absurd rfl h
  | cons c cs ih =>
    rw [advance_cons]
    by_cases hcs : cs = []
    · rw [hcs, advance_nil]
      exact l.lt_after c
    · exact lt_trans (l.lt_after c) (ih _ hcs)

/-- Of two offsets in a text the greater one has the greater location. -/
theorem advance_take_lt (l : Location) {text : List Char} {m n : Nat} (hmn : m < n)
    (hm : m < text.length) : l.advance (text.take m) < l.advance (text.take n) := by
  obtain ⟨k, rfl⟩ := Nat.exists_eq_add_of_lt hmn
  rw [Nat.add_assoc, List.take_add, advance_append]
  refine lt_advance _ ?_
  simp only [ne_eq, List.take_eq_nil_iff, List.drop_eq_nil_iff, not_or]
  omega

end Location

/-! ## Moves and their marks -/

section

variable {text filename : String} {ms : List Move} {mode : Mode} {r : List Char}

/-- Every move of a path into a text begins where the text before it ends. -/
theorem Path.mark_of_mem (h : Path .code .start ms mode r.head?)
    (htext : text.toList = coveredText ms ++ r) :
    ∀ m ∈ ms, m.mark = Mark.start.advance (text.toList.take m.mark.offset) := by
  intro m hm
  obtain ⟨before, rest, hcut, -, hmark, hoffset, -⟩ := h.exists_around hm
  rw [hoffset, htext, hcut, List.take_left]
  exact hmark

/-- Every move of a run begins at the mark of the text before it. -/
theorem Run.mark_of_mem {m : Move} (hm : m ∈ (ofText Recognizer.code text).moves) :
    m.mark = Mark.start.advance (text.toList.take m.mark.offset) := by
  obtain ⟨mode, r, htext, hpath, -⟩ := exists_path .code .start text.toList
  exact hpath.mark_of_mem htext m hm

/-- The location of every token of a run is that of its start. -/
theorem Run.location_of_mem {t : Token} (ht : t ∈ (ofText Recognizer.code text).tokens filename) :
    t.location = Location.start.advance (text.toList.take t.start) := by
  obtain ⟨m, hm, htoken⟩ := List.mem_filterMap.mp ht
  obtain ⟨l, -, rfl⟩ := Move.token?_eq_some_iff.mp htoken
  exact congrArg Mark.location (mark_of_mem hm)

end

/-! ## The law -/

/-- **Locations are those of the offsets**: a token stands where the characters
before it lead. Its line is one more than the newlines among them, its column one
more than the columns of those behind the last newline, and every token stands
behind the one before it. -/
theorem lex_placed {text filename : String} {ts : List Token} (h : lex text filename = .ok ts) :
    (∀ t ∈ ts,
      t.location = Location.start.advance (text.toList.take t.start) ∧
      t.location.line = 1 + (text.toList.take t.start).count '\n' ∧
      t.location.column =
        1 + ((Location.lastLine (text.toList.take t.start)).map Location.columns).sum) ∧
    ts.Pairwise fun a b => a.location < b.location := by
  have hlocation : ∀ t ∈ ts,
      t.location = Location.start.advance (text.toList.take t.start) := by
    intro t ht
    rw [← (lex_eq_ok_iff_run.mp h).2] at ht
    exact Run.location_of_mem ht
  refine ⟨?_, ?_⟩
  · intro t ht
    refine ⟨hlocation t ht, ?_, ?_⟩
    · rw [hlocation t ht, Location.advance_start]
    · rw [hlocation t ht, Location.advance_start]
  · have hstart : ∀ t ∈ ts, t.start < text.toList.length := by
      obtain ⟨ms, hpath, htext, rfl⟩ := lex_eq_ok_iff.mp h
      intro t ht
      simpa [Mark.start, ← htext] using hpath.start_lt t ht
    refine (pairwise_start_of_lex h).imp_of_mem ?_
    intro a b ha hb hab
    rw [hlocation a ha, hlocation b hb]
    exact Location.advance_take_lt _ hab (hstart a ha)

/-- Newlines in a string and in literal text, and tabs before and behind a mark:
the second line goes on behind the string, at column 6. -/
theorem lex_placed_lines : ∃ ts, lex "'\n\t'\t$\"é\n\"1" "a.mcl" = .ok ts ∧
    ts.map (fun t => (t.start, t.location)) =
      [(0, ⟨1, 1⟩), (4, ⟨2, 6⟩), (5, ⟨2, 10⟩), (6, ⟨2, 11⟩), (9, ⟨3, 1⟩), (10, ⟨3, 2⟩)] ∧
    (∀ t ∈ ts, t.location.column = 1 +
      ((Location.lastLine ("'\n\t'\t$\"é\n\"1".toList.take t.start)).map Location.columns).sum) ∧
    ts.Pairwise fun a b => a.location < b.location := by
  have h : lex "'\n\t'\t$\"é\n\"1" "a.mcl" = .ok
      [⟨"\n\t", .string, ⟨1, 1⟩, 0, "a.mcl"⟩, ⟨"\t", .whitespace, ⟨2, 6⟩, 4, "a.mcl"⟩,
        ⟨"$", .interpolationStart, ⟨2, 10⟩, 5, "a.mcl"⟩,
        ⟨"é\n", .string, ⟨2, 11⟩, 6, "a.mcl"⟩,
        ⟨"\"", .interpolationEnd, ⟨3, 1⟩, 9, "a.mcl"⟩, ⟨"1", .number, ⟨3, 2⟩, 10, "a.mcl"⟩] := by
    cbv
  obtain ⟨hplaced, hpairwise⟩ := lex_placed h
  exact ⟨_, h, rfl, fun t ht => (hplaced t ht).2.2, hpairwise⟩

end ScriptLexer
