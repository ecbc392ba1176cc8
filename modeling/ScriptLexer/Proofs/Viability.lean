/-
ScriptLexer.Proofs.Viability — what may still become a script.

A text that does not lex is either too short or wrong. If its string or its
interpolated string is unterminated then more text makes it lex, and if it
holds a character that cannot stand where it stands then no text after it
makes a difference (`lex_viable`). So every text that a script begins with
lexes or is unterminated.

More text is found mode by mode. `Mode.closing` leads from each mode back to
ordinary code. Before it what was left unfinished has to be finished: the
string or the literal text at which the run stopped
(`Mode.Faults.exists_returns`), or the last token before the end, where
it is a comment that would take in whatever follows (`Path.exists_closed`).
That nothing after a wrong character matters is plain from the relations: the
path to it looks at that character and no further, and so does the fault.
-/
import Mathlib
import ScriptLexer.Proofs.Path

namespace ScriptLexer

/-! ## The two kinds of error -/

/-- The text ends too early. -/
inductive Cause.Unterminated : Cause → Prop where
  | string (c : Char) : Unterminated (.unterminatedString c)
  | interpolation : Unterminated .unterminatedInterpolation

/-- A character stands where it cannot stand. -/
inductive Cause.Misplaced : Cause → Prop where
  | character (c : Char) : Misplaced (.unexpectedCharacter c)
  | terminator (c : Char) : Misplaced (.invalidTerminator c)

theorem Cause.Misplaced.not_unterminated {cause : Cause} (h : cause.Misplaced) :
    ¬ cause.Unterminated := by
  intro hcause
  cases hcause <;> cases h

section

variable {mode : Mode} {here : Location} {r : List Char} {fault : Fault}

theorem Mode.Faults.unterminated_or_misplaced (h : mode.Faults here r fault) :
    fault.cause.Unterminated ∨ fault.cause.Misplaced := by
  cases h with
  | string => exact .inl (.string _)
  | character => exact .inr (.character _)
  | terminator => exact .inr (.terminator _)
  | text => exact .inl .interpolation

/-- The end of a text is too early where it is a fault. -/
theorem Mode.unterminated_of_atEnd (h : mode.atEnd = some fault) :
    fault.cause.Unterminated := by
  cases mode with
  | code => cases h
  | literal | expression =>
    cases h
    exact .interpolation

theorem Stops.unterminated_or_misplaced (h : Stops mode here r (some fault)) :
    fault.cause.Unterminated ∨ fault.cause.Misplaced := by
  generalize hfault : some fault = fault? at h
  cases h with
  | atEnd => exact .inl (Mode.unterminated_of_atEnd hfault.symm)
  | fault h =>
    cases hfault
    exact h.unterminated_or_misplaced

end

/-! ## Misplaced characters -/

section

variable {mode : Mode} {here : Location} {r : List Char} {fault : Fault}

/-- A misplaced character is one whatever comes after it. -/
theorem Mode.Faults.append (h : mode.Faults here r fault) (hcause : fault.cause.Misplaced)
    (rest : List Char) : mode.Faults here (r ++ rest) fault := by
  cases h with
  | string => cases hcause
  | character hmode hc hdollar => exact .character hmode hc hdollar
  | terminator hquote => exact .terminator hquote
  | text => cases hcause

/-- A run that stops at a misplaced character has not come to the end. -/
theorem Stops.faults (h : Stops mode here r (some fault)) (hcause : fault.cause.Misplaced) :
    mode.Faults here r fault := by
  generalize hfault : some fault = fault? at h
  cases h with
  | atEnd => exact absurd (Mode.unterminated_of_atEnd hfault.symm) hcause.not_unterminated
  | fault h =>
    cases hfault
    exact h

end

theorem lex_error_append {text filename : String} {e : LexError}
    (h : lex text filename = .error e) (hcause : e.cause.Misplaced) (rest : String) :
    lex (text ++ rest) filename = .error e := by
  obtain ⟨ms, mode, r, fault, hpath, htext, hstops, rfl⟩ := lex_eq_error_iff.mp h
  have hfaults := hstops.faults hcause
  refine lex_eq_error_iff.mpr ⟨ms, mode, r ++ rest.toList, fault, ?_, ?_, ?_, rfl⟩
  · rw [List.head?_append_of_ne_nil r hfaults.ne_nil]
    exact hpath
  · rw [String.toList_append, htext, List.append_assoc]
  · exact .fault (hfaults.append hcause rest.toList)

/-! ## Completions -/

/-- The lexer gets from a mode at a mark through `text` back to ordinary code. -/
def Returns (mode : Mode) (mark : Mark) (text : List Char) : Prop :=
  ∃ ms, Path mode mark ms .code none ∧ coveredText ms = text

namespace Returns

variable {mode mid : Mode} {mark : Mark} {text : List Char}

theorem nil : Returns .code mark [] :=
  ⟨[], .nil, rfl⟩

theorem append {ms : List Move} {next? : Option Char} (h : Path mode mark ms mid next?)
    (hrest : Returns mid (mark.advance (coveredText ms)) text) (hnext : text.head? = next?) :
    Returns mode mark (coveredText ms ++ text) := by
  obtain ⟨ms', hpath, rfl⟩ := hrest
  refine ⟨ms ++ ms', .append ?_ hpath, coveredText_append ms ms'⟩
  rw [Option.or_none, hnext]
  exact h

theorem step {s : Step} {next? : Option Char} (h : mode.Takes mark.location s next?)
    (hrest : Returns s.next (mark.advance s.covered) text) (hnext : text.head? = next?) :
    Returns mode mark (s.covered ++ text) := by
  have hcovered : coveredText [⟨mark, mode, s⟩] = s.covered := by simp
  rw [← hcovered] at hrest ⊢
  exact append (.singleton h) hrest hnext

end Returns

/-- A text that leads from a mode back to ordinary code. -/
def Mode.closing : Mode → List Char
  | code => []
  | literal none _ => [Quote.double.char, Quote.double.char]
  | literal (some q) _ => [q.char]
  | expression q _ => ['\x7d', q.char]

theorem Mode.returns_closing (mode : Mode) (mark : Mark) : Returns mode mark mode.closing := by
  have hfinish : ∀ (q : Quote) (opened : Location) (mark : Mark),
      Returns (.literal (some q) opened) mark [q.char] := fun _ _ _ => .step .finish .nil rfl
  cases mode with
  | code => exact .nil
  | literal quote? opened =>
    cases quote? with
    | none =>
      -- an empty string
      have hopen : (literal none opened).Takes mark.location
          ⟨some ⟨.string, []⟩, [Quote.double.char], .literal (some .double) opened⟩
          (some Quote.double.char) := .text (.first .double) .nil (by simp)
      exact Returns.step hopen (hfinish .double opened _) rfl
    | some q => exact hfinish q opened mark
  | expression q opened =>
    have hclose : (expression q opened).Takes mark.location
        ⟨none, ['\x7d'], .literal (some q) opened⟩ (some q.char) :=
      .close (by simpa using q.char_ne.2.2)
    exact Returns.step hclose (hfinish q opened _) rfl

/-- A step taken at the end of a text is taken before the closing of the mode
it leads to, once the token it makes is closed. -/
theorem Mode.Takes.exists_closed {mode : Mode} {here : Location} {s : Step}
    (h : mode.Takes here s none) : ∃ fill t, t.covered = s.covered ++ fill ∧ t.next = s.next ∧
      mode.Takes here t s.next.closing.head? := by
  cases h with
  | @inner q opened _ w l _ hspells _ _ =>
    obtain ⟨fill, m, hclosed, hfuses⟩ := hspells.exists_closed
    refine ⟨fill, ⟨some m, w ++ fill, .expression q opened⟩, rfl, rfl, .inner hclosed ?_ ?_⟩
    · intro c hc
      cases hc
      exact hfuses
    · exact fun _ => rfl
  | token hspells happart => exact ⟨[], _, by simp, rfl, .token hspells happart⟩
  | start => exact ⟨[], _, by simp, rfl, .start⟩
  | nested => exact ⟨[], _, by simp, rfl, .nested⟩
  | @close q _ _ _ _ =>
    refine ⟨[], _, by simp, rfl, .close ?_⟩
    simpa [closing] using q.char_ne.2.2
  | brace hentry hunits _ =>
    refine ⟨[], _, by simp, rfl, .brace hentry hunits ?_⟩
    simp [closing]
  | finish => exact ⟨[], _, by simp, rfl, .finish⟩

/-- A path to the end of a text leads on to the closing of its mode, once its
last token is closed. -/
theorem Path.exists_closed {mode mode' : Mode} {mark : Mark} {ms : List Move}
    (h : Path mode mark ms mode' none) : ∃ fill ms', coveredText ms' = coveredText ms ++ fill ∧
      Path mode mark ms' mode' mode'.closing.head? := by
  rcases List.eq_nil_or_concat ms with rfl | ⟨ms, m, rfl⟩
  · cases h
    exact ⟨[], [], by simp, .nil⟩
  · rw [List.concat_eq_append] at h ⊢
    obtain ⟨first, hmark, htakes, rfl⟩ := h.of_concat
    obtain ⟨fill, t, hcovered, hnext, hclosed⟩ := htakes.exists_closed
    refine ⟨fill, ms ++ [⟨m.mark, m.mode, t⟩], by simp [hcovered], ?_⟩
    -- what comes before the last move still sees the same next character
    have hfirst : Path mode mark ms m.mode
        ((coveredText [⟨m.mark, m.mode, t⟩]).head?.or m.step.next.closing.head?) := by
      obtain ⟨c, cs, hc⟩ := List.exists_cons_of_ne_nil htakes.covered_ne_nil
      rw [hc] at first hcovered
      simpa [hcovered] using first
    refine hfirst.append ?_
    rw [← hmark, ← hnext]
    rw [← hnext] at hclosed
    exact .singleton hclosed

/-- Where the text ends too early, more text leads back to ordinary code. -/
theorem Mode.Faults.exists_returns {mode : Mode} {mark : Mark} {r : List Char} {fault : Fault}
    (h : mode.Faults mark.location r fault) (hcause : fault.cause.Unterminated) :
    ∃ fill, Returns mode mark (r ++ fill) := by
  cases h with
  | @string _ _ q cs hmode hbody =>
    -- close the string, and go on from the mode it stands in
    obtain ⟨fill, hbody⟩ := Quote.exists_body_append hbody
    have hspells := Spells.string q hbody
    have htakes : mode.Takes mark.location
        ⟨some ⟨.string, Text.decode (cs ++ fill)⟩, q.char :: (cs ++ fill) ++ [q.char], mode⟩
        mode.closing.head? := by
      cases hmode with
      | code => exact .token hspells (by simp)
      | expression => exact .inner hspells (by simp) fun _ => rfl
    refine ⟨fill ++ q.char :: mode.closing, ?_⟩
    have hreturns := Returns.step htakes (mode.returns_closing _) rfl
    simpa using hreturns
  | character => cases hcause
  | terminator => cases hcause
  | @text quote? q opened _ entered cs hentry hne hscan =>
    obtain ⟨fill, hunits⟩ := Segment.exists_units_append hscan
    have hne' : entered ++ (cs ++ fill) ≠ [] := by
      rw [← List.append_assoc]
      exact List.append_ne_nil_of_left_ne_nil hne fill
    refine ⟨fill ++ [q.char], ?_⟩
    have htakes : (literal quote? opened).Takes mark.location _ (some q.char) :=
      .text hentry hunits hne'
    have hreturns := Returns.step htakes (returns_closing (literal (some q) opened) _) rfl
    simpa [closing] using hreturns

/-- An unterminated text is completed to a script. -/
theorem exists_lex_append {text filename : String} {e : LexError}
    (h : lex text filename = .error e) (hcause : e.cause.Unterminated) :
    ∃ rest ts, lex (text ++ rest) filename = .ok ts := by
  obtain ⟨ms, mode, r, fault, hpath, htext, hstops, rfl⟩ := lex_eq_error_iff.mp h
  have hreturns : ∃ fill, Returns .code .start (coveredText ms ++ r ++ fill) := by
    generalize hfault : some fault = fault? at hstops
    cases hstops with
    | atEnd =>
      obtain ⟨fill, ms', hcovered, hclosed⟩ := hpath.exists_closed
      refine ⟨fill ++ mode.closing, ?_⟩
      have hreturns := Returns.append hclosed (mode.returns_closing _) rfl
      simpa [hcovered] using hreturns
    | fault hfaults =>
      cases hfault
      have hhere : mode.Faults (Mark.start.advance (coveredText ms)).location r fault := hfaults
      obtain ⟨fill, hrest⟩ := hhere.exists_returns hcause
      refine ⟨fill, ?_⟩
      rw [List.append_assoc]
      exact .append hpath hrest (List.head?_append_of_ne_nil r hfaults.ne_nil)
  obtain ⟨fill, ms', hpath', hcovered⟩ := hreturns
  refine ⟨String.ofList fill, _, lex_eq_ok_iff.mpr ⟨ms', hpath', ?_, rfl⟩⟩
  rw [String.toList_append, String.toList_ofList, htext, hcovered]

/-! ## Viable texts -/

/-- **Viability**: an error is that of an unterminated text exactly if more
text would make it lex, and one about a misplaced character stays what it is
whatever comes after. So a script begins with texts that lex or are
unterminated. -/
theorem lex_viable (text filename : String) :
    (∀ e, lex text filename = .error e →
      (e.cause.Unterminated ↔ ∃ rest ts, lex (text ++ rest) filename = .ok ts) ∧
      (e.cause.Misplaced → ∀ rest, lex (text ++ rest) filename = .error e)) ∧
    ((∃ rest ts, lex (text ++ rest) filename = .ok ts) →
      (∃ ts, lex text filename = .ok ts) ∨
      ∃ e, lex text filename = .error e ∧ e.cause.Unterminated) := by
  have hviable : ∀ e, lex text filename = .error e →
      (∃ rest ts, lex (text ++ rest) filename = .ok ts) → e.cause.Unterminated := by
    intro e h hmore
    obtain ⟨rest, ts, hok⟩ := hmore
    obtain ⟨_, _, _, fault, _, _, hstops, rfl⟩ := lex_eq_error_iff.mp h
    rcases hstops.unterminated_or_misplaced with hcause | hcause
    · exact hcause
    · rw [lex_error_append h hcause rest] at hok
      cases hok
  refine ⟨?_, ?_⟩
  · intro e h
    exact ⟨⟨exists_lex_append h, hviable e h⟩, lex_error_append h⟩
  · intro hmore
    cases h : lex text filename with
    | ok ts => exact .inl ⟨ts, rfl⟩
    | error e => exact .inr ⟨e, rfl, hviable e h hmore⟩

/-- A comment that hides the rest of an expression can be ended, a lone
backslash can be followed by what it escapes, and a `#` is wrong for good. -/
theorem lex_viable_comment :
    (∃ rest ts, lex ("$'a\x7bx//" ++ rest) "a.mcl" = .ok ts) ∧
    (∀ rest, lex ("a#" ++ rest) "a.mcl" =
      .error ⟨.unexpectedCharacter '#', "a.mcl", some ⟨1, 2⟩⟩) ∧
    ((∃ ts, lex "'\\" "a.mcl" = .ok ts) ∨
      ∃ e, lex "'\\" "a.mcl" = .error e ∧ e.cause.Unterminated) := by
  obtain ⟨hcomment, hmisplaced, hescape⟩ :
      lex "$'a\x7bx//" "a.mcl" = .error ⟨.unterminatedInterpolation, "a.mcl", some ⟨1, 1⟩⟩ ∧
      lex "a#" "a.mcl" = .error ⟨.unexpectedCharacter '#', "a.mcl", some ⟨1, 2⟩⟩ ∧
      lex ("'\\" ++ "''") "a.mcl" = .ok [⟨"'", .string, ⟨1, 1⟩, 0, "a.mcl"⟩] :=
    ⟨by cbv, by cbv, by cbv⟩
  exact ⟨((lex_viable _ _).1 _ hcomment).1.mp .interpolation,
    ((lex_viable _ _).1 _ hmisplaced).2 (.character '#'), (lex_viable _ _).2 ⟨_, _, hescape⟩⟩

end ScriptLexer
