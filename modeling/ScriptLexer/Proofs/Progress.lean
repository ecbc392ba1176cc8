/-
ScriptLexer.Proofs.Progress — the lexer comes to an end.

The recognizers find the end of a token with four kinds of loop (`Loop`). One
turn of a loop passes over a character or two and stops only where there is
something to stop at, or nothing left. Each turn leaves less of the text
(`Loop.turn_eq_some`), a lone backslash at the end included, so a loop over a text
stops after at most as many turns as the text has characters, and where it stops
is where the recognizer says that the token ends (`Loop.exists_end`).

The same holds of the run as a whole: a step covers at least one character and
never more than there are. So there are at most as many steps as characters, the
one that may fail at the end counted too, and the guard against a step that covers
nothing is never needed (`lex_progress`).
-/
import ScriptLexer.Proofs.Viability

namespace ScriptLexer

/-! ## The loops of the recognizers -/

/-- The loops that look for the end of a token. -/
inductive Loop where
  /-- Through the characters of a class, such as those of a word or of a line. -/
  | run (accept : Char → Bool)
  /-- To the `*/` of a block comment. -/
  | block
  /-- To the closing mark of a plain string. -/
  | body (q : Quote)
  /-- To the closing mark of an interpolated string, or to an expression. -/
  | literal (q : Quote)

namespace Loop

/-- What is left of a text after one turn of a loop, or none if the loop stops in
front of it. What goes together is passed in one turn; at the end of the text
that may be a backslash with nothing after it. -/
def turn : Loop → List Char → Option (List Char)
  | _, [] => none
  | run accept, c :: cs => if accept c then some cs else none
  | block, c :: cs => if c = '*' ∧ cs.head? = some '/' then none else some cs
  | body q, c :: cs =>
    if c = '\\' then some (cs.drop 1)
    else if c = q.char then none
    else some cs
  | literal q, c :: cs =>
    if c = q.char then none
    else if c = '\\' then some (cs.drop 1)
    else if (c = '\x7b' ∨ c = '\x7d') ∧ cs.head? = some c then some (cs.drop 1)
    else if c = '\x7b' then none
    else some cs

/-- What it means to the recognizer that a loop has passed over `passed` and stops
in front of `rest`. -/
def Answers : Loop → (passed rest : List Char) → Prop
  | run accept, passed, rest =>
    (passed ++ rest).takeWhile accept = passed ∧ (passed ++ rest).dropWhile accept = rest
  | block, passed, rest => Recognizer.throughClose (passed ++ rest) = passed ++ rest.take 2
  | body q, passed, rest => q.body? (passed ++ rest) = rest.head?.map fun _ => passed
  | literal q, passed, rest =>
    Segment.scan q (passed ++ rest) = rest.head?.map fun c => ⟨passed, c = '\x7b'⟩

/-- A loop leads from a text in some number of turns to what is left of it. -/
inductive Turns (loop : Loop) : Nat → List Char → List Char → Prop where
  | zero {cs : List Char} : Turns loop 0 cs cs
  | succ {n : Nat} {cs mid rest : List Char} :
      loop.turn cs = some mid → Turns loop n mid rest → Turns loop (n + 1) cs rest

variable {loop : Loop} {cs mid rest : List Char}

@[simp] theorem turn_nil (loop : Loop) : loop.turn [] = none := by
  cases loop <;> rfl

/-- Where a loop stops at once, the token ends at once. -/
theorem answers_of_stop (h : loop.turn rest = none) : loop.Answers [] rest := by
  cases rest with
  | nil => cases loop <;> simp [Answers, Recognizer.throughClose]
  | cons c cs =>
    cases loop with
    | run accept => simpa [turn, Answers] using h
    | block =>
      obtain ⟨rfl, hcs⟩ : c = '*' ∧ cs.head? = some '/' := by simpa [turn] using h
      obtain ⟨ds, rfl⟩ := List.head?_eq_some_iff.mp hcs
      rfl
    | body q =>
      have hs : c ≠ '\\' := by
        rintro rfl
        simp [turn] at h
      have hq : c = q.char := by
        by_contra hq
        simp [turn, hs, hq] at h
      simp [Answers, hq]
    | literal q =>
      by_cases hq : c = q.char
      · simp [Answers, hq, q.char_ne.2.1]
      · have hs : c ≠ '\\' := by
          rintro rfl
          simp [turn, hq] at h
        have hpair : ¬ ((c = '\x7b' ∨ c = '\x7d') ∧ cs.head? = some c) := by
          intro hpair
          simp only [turn, if_neg hq, if_neg hs, if_pos hpair] at h
          cases h
        have ho : c = '\x7b' := by
          by_contra ho
          simp only [turn, if_neg hq, if_neg hs, if_neg hpair, if_neg ho] at h
          cases h
        subst ho
        simpa [Answers] using Segment.scan_open q (by simpa using hpair)

/-- A turn through a plain string passes over a unit of its body, or over a lone
backslash. -/
theorem turn_body {q : Quote} (h : (body q).turn cs = some mid) :
    (cs = ['\\'] ∧ mid = []) ∨ ∃ u, u ≠ [] ∧ cs = u ++ mid ∧ q.Body u := by
  cases cs with
  | nil => simp at h
  | cons c cs =>
    by_cases hs : c = '\\'
    · subst hs
      cases cs with
      | nil => exact .inl ⟨rfl, by simpa [turn] using h.symm⟩
      | cons d ds =>
        obtain rfl : ds = mid := by simpa [turn] using h
        exact .inr ⟨['\\', d], by simp, rfl, .escape d .nil⟩
    · simp only [turn, if_neg hs] at h
      split at h
      · cases h
      · next hq =>
        cases h
        exact .inr ⟨[c], by simp, rfl, .plain hq hs .nil⟩

/-- A turn through an interpolated string passes over a unit of literal text, or
over a lone backslash. -/
theorem turn_literal {q : Quote} (h : (literal q).turn cs = some mid) :
    (cs = ['\\'] ∧ mid = []) ∨ ∃ u, u ≠ [] ∧ cs = u ++ mid ∧ Segment.Units q u := by
  cases cs with
  | nil => simp at h
  | cons c cs =>
    simp only [turn] at h
    split at h
    · cases h
    next hq =>
    split at h
    · next hs =>
      subst hs
      cases cs with
      | nil => exact .inl ⟨rfl, by simpa using h.symm⟩
      | cons d ds =>
        cases h
        exact .inr ⟨['\\', d], by simp, rfl, .escape d .nil⟩
    next hs =>
    split at h
    · next hpair =>
      obtain ⟨hbrace, hcs⟩ := hpair
      obtain ⟨ds, rfl⟩ := List.head?_eq_some_iff.mp hcs
      cases h
      refine .inr ⟨[c, c], by simp, rfl, ?_⟩
      rcases hbrace with rfl | rfl
      · exact .openPair .nil
      · exact .plain hq hs (by decide) (.plain hq hs (by decide) .nil)
    split at h
    · cases h
    · next ho =>
      cases h
      exact .inr ⟨[c], by simp, rfl, .plain hq hs ho .nil⟩

/-- One turn passes over some of the text, and the token goes on from there. -/
theorem turn_eq_some (h : loop.turn cs = some mid) : ∃ u, u ≠ [] ∧ cs = u ++ mid ∧
    ∀ passed rest, mid = passed ++ rest → loop.Answers passed rest →
      loop.Answers (u ++ passed) rest := by
  cases loop with
  | run accept =>
    cases cs with
    | nil => simp at h
    | cons c cs =>
      obtain ⟨hc, rfl⟩ : accept c = true ∧ cs = mid := by simpa [turn] using h
      refine ⟨[c], by simp, rfl, ?_⟩
      intro passed rest _ hanswers
      obtain ⟨htake, hdrop⟩ := hanswers
      simp [Answers, hc, htake, hdrop]
  | block =>
    cases cs with
    | nil => simp at h
    | cons c cs =>
      obtain ⟨hopen, rfl⟩ : ¬ (c = '*' ∧ cs.head? = some '/') ∧ cs = mid := by
        simpa [turn] using h
      refine ⟨[c], by simp, rfl, ?_⟩
      intro passed rest hcs hanswers
      have hpair : ∀ ds, c = '*' → cs = '/' :: ds → False := by
        rintro ds rfl rfl
        exact hopen ⟨rfl, rfl⟩
      rw [Answers, ← hcs] at hanswers
      rw [Answers, List.append_assoc, ← hcs, List.singleton_append,
        Recognizer.throughClose.eq_3 _ _ hpair, hanswers]
      rfl
  | body q =>
    rcases turn_body h with ⟨rfl, rfl⟩ | ⟨u, hne, rfl, hu⟩
    · refine ⟨['\\'], by simp, rfl, ?_⟩
      intro passed rest hnil _
      obtain ⟨rfl, rfl⟩ := List.append_eq_nil_iff.mp hnil.symm
      exact Quote.body?_backslash q
    · refine ⟨u, hne, rfl, ?_⟩
      intro passed rest _ hanswers
      rw [Answers] at hanswers ⊢
      rw [List.append_assoc, Quote.body?_append hu, hanswers, Option.map_map]
      rfl
  | literal q =>
    rcases turn_literal h with ⟨rfl, rfl⟩ | ⟨u, hne, rfl, hu⟩
    · refine ⟨['\\'], by simp, rfl, ?_⟩
      intro passed rest hnil _
      obtain ⟨rfl, rfl⟩ := List.append_eq_nil_iff.mp hnil.symm
      exact Segment.scan_backslash q
    · refine ⟨u, hne, rfl, ?_⟩
      intro passed rest _ hanswers
      rw [Answers] at hanswers ⊢
      rw [List.append_assoc, Segment.scan_append hu, hanswers, Option.map_map]
      rfl

/-- A turn leaves a shorter text, the end of the one before it. -/
theorem turn_shortens (h : loop.turn cs = some mid) : mid <:+ cs ∧ mid.length < cs.length := by
  obtain ⟨u, hne, rfl, -⟩ := turn_eq_some h
  have := List.length_pos_iff.mpr hne
  exact ⟨List.suffix_append u mid, by rw [List.length_append]; omega⟩

/-- A loop stops after at most as many turns as it passes characters, and the
token ends where it stops. -/
theorem exists_end (loop : Loop) (cs : List Char) : ∃ n passed rest, cs = passed ++ rest ∧
    n ≤ passed.length ∧ loop.Turns n cs rest ∧ loop.turn rest = none ∧
    loop.Answers passed rest := by
  cases hturn : loop.turn cs with
  | none => exact ⟨0, [], cs, rfl, Nat.zero_le _, .zero, hturn, answers_of_stop hturn⟩
  | some mid =>
    have hshort := (turn_shortens hturn).2
    obtain ⟨u, hne, hcs, hextend⟩ := turn_eq_some hturn
    obtain ⟨n, passed, rest, hmid, hn, hturns, hstop, hanswers⟩ := exists_end loop mid
    refine ⟨n + 1, u ++ passed, rest, ?_, ?_, .succ hturn hturns, hstop, ?_⟩
    · rw [hcs, hmid, List.append_assoc]
    · have := List.length_pos_iff.mpr hne
      rw [List.length_append]
      omega
    · exact hextend passed rest hmid hanswers
termination_by cs.length
decreasing_by exact hshort

end Loop

/-! ## Steps and runs -/

section

variable {mode : Mode} {here : Location} {c : Char} {cs : List Char}

/-- A step covers some of the text in front of it, and nothing else. -/
theorem Mode.covered_of_step {s : Step} (h : mode.step Recognizer.code here c cs = .ok s) :
    s.covered ≠ [] ∧ s.covered <+: c :: cs := by
  obtain ⟨r, hcs, htakes⟩ := takes_of_step h
  exact ⟨htakes.covered_ne_nil, r, hcs.symm⟩

/-- A run that stops for a character stops in front of it. -/
theorem Stops.head?_of_unexpected {r : List Char} {fault : Fault}
    (h : Stops mode here r (some fault)) (hcause : fault.cause = .unexpectedCharacter c) :
    r.head? = some c ∧ fault.location = here := by
  have hfaults := h.faults (hcause ▸ .character c)
  cases hfaults with
  | character =>
    cases hcause
    exact ⟨rfl, rfl⟩
  | _ => cases hcause

/-- No run stops because a step reads nothing. -/
theorem Stops.cause_ne_stuck {r : List Char} {fault : Fault} (h : Stops mode here r (some fault)) :
    fault.cause ≠ .stuck := by
  intro hcause
  rcases h.unterminated_or_misplaced with hkind | hkind
  · rw [hcause] at hkind
    cases hkind
  · rw [hcause] at hkind
    cases hkind

end

/-- The steps that a run tries on a text of `size` characters: those that it makes,
and one more if it stops in front of a character. -/
def Run.attempts (size : Nat) (r : Run) : Nat :=
  r.moves.length + if (coveredText r.moves).length < size then 1 else 0

theorem Run.attempts_le (text : String) :
    (ofText Recognizer.code text).attempts text.length ≤ text.length := by
  obtain ⟨mode, r, htext, hpath, -⟩ := exists_path .code .start text.toList
  have hmoves := hpath.length_le
  have hcovered := congrArg List.length htext
  rw [String.length_toList, List.length_append] at hcovered
  rw [attempts, ofText]
  split <;> omega

/-! ## The law -/

/-- **The lexer makes progress**: wherever it comes in a text, a step that it takes
ends behind where it begins and not behind the end. Each turn of a loop in a
recognizer leaves less of the text, so the loop stops, and the token ends where it
does. So there are at most as many steps as characters, no step is one that reads
nothing, and a character that begins no token is always one of the text. -/
theorem lex_progress (text filename : String) :
    (∀ n mode here c cs s, Boundary text n mode → text.toList.drop n = c :: cs →
      mode.step Recognizer.code here c cs = .ok s →
      n < n + s.covered.length ∧ n + s.covered.length ≤ text.length) ∧
    (∀ (loop : Loop) (cs : List Char),
      (∀ rest, loop.turn cs = some rest → rest <:+ cs ∧ rest.length < cs.length) ∧
      ∃ n passed rest, cs = passed ++ rest ∧ n ≤ passed.length ∧ loop.Turns n cs rest ∧
        loop.turn rest = none ∧ loop.Answers passed rest) ∧
    (Run.ofText Recognizer.code text).attempts text.length ≤ text.length ∧
    (∀ e, lex text filename = .error e → e.cause ≠ .stuck) ∧
    ∀ e c, lex text filename = .error e → e.cause = .unexpectedCharacter c →
      ∃ i mode, i < text.length ∧ Boundary text i mode ∧ text.toList[i]? = some c ∧
        e.location? = some (Location.start.advance (text.toList.take i)) := by
  refine ⟨?_, ?_, Run.attempts_le text, ?_, ?_⟩
  · intro n mode here c cs s _ hdrop hstep
    obtain ⟨hne, hcovered⟩ := Mode.covered_of_step hstep
    have hpos := List.length_pos_iff.mpr hne
    have hle := hcovered.length_le
    rw [← hdrop, List.length_drop, String.length_toList] at hle
    omega
  · intro loop cs
    exact ⟨fun _ => Loop.turn_shortens, loop.exists_end cs⟩
  · intro e h hcause
    obtain ⟨_, _, _, _, _, _, hstops, rfl⟩ := lex_eq_error_iff.mp h
    exact hstops.cause_ne_stuck hcause
  · intro e c h hcause
    obtain ⟨ms, mode, r, fault, hpath, htext, hstops, rfl⟩ := lex_eq_error_iff.mp h
    obtain ⟨hhead, hlocation⟩ := hstops.head?_of_unexpected hcause
    obtain ⟨cs, rfl⟩ := List.head?_eq_some_iff.mp hhead
    refine ⟨(coveredText ms).length, mode, ?_, boundary_iff.mpr ⟨ms, _, htext, hpath, rfl⟩, ?_, ?_⟩
    · rw [← String.length_toList, htext]
      simp
    · simp [htext]
    · rw [htext, List.take_left, ← hlocation]

/-- Behind a `$` the opening mark alone is a step, since the closing one stops the
loop at once. A loop gets past a backslash at the very end. The character that is
wrong is the second of the text. -/
theorem lex_progress_mark :
    (Boundary "$''" 1 (.literal none ⟨1, 1⟩) ∧
      Mode.step Recognizer.code (.literal none ⟨1, 1⟩) ⟨1, 2⟩ '\'' ['\''] =
        .ok ⟨some ⟨.string, []⟩, ['\''], .literal (some .single) ⟨1, 1⟩⟩ ∧ 1 < 2 ∧ 2 ≤ 3) ∧
    ((Loop.body .single).turn ['\\'] = some [] ∧ [] <:+ ['\\'] ∧ 0 < 1) ∧
    lex "a\x00" "a.mcl" = .error ⟨.unexpectedCharacter '\x00', "a.mcl", some ⟨1, 2⟩⟩ ∧
    ∃ i mode, i < 2 ∧ Boundary "a\x00" i mode ∧ "a\x00".toList[i]? = some '\x00' ∧
      some (⟨1, 2⟩ : Location) = some (Location.start.advance ("a\x00".toList.take i)) := by
  have hboundary : Boundary "$''" 1 (.literal none ⟨1, 1⟩) := .of_finish (k := 0) (by cbv)
  have hstep : Mode.step Recognizer.code (.literal none ⟨1, 1⟩) ⟨1, 2⟩ '\'' ['\''] =
      .ok ⟨some ⟨.string, []⟩, ['\''], .literal (some .single) ⟨1, 1⟩⟩ := by decide
  have hturn : (Loop.body .single).turn ['\\'] = some [] := by decide
  have h : lex "a\x00" "a.mcl" = .error ⟨.unexpectedCharacter '\x00', "a.mcl", some ⟨1, 2⟩⟩ := by
    cbv
  obtain ⟨hsteps, hloops, -, -, -⟩ := lex_progress "$''" "a.mcl"
  obtain ⟨-, -, -, -, hcharacter⟩ := lex_progress "a\x00" "a.mcl"
  exact ⟨⟨hboundary, hstep, hsteps 1 _ _ _ _ _ hboundary (by decide) hstep⟩,
    ⟨hturn, (hloops _ _).1 _ hturn⟩, h, hcharacter _ _ h rfl⟩

end ScriptLexer
