/-
ScriptLexer.Proofs.Transition — the steps of the lexer as a relation.

`Mode.Takes mode here s next?` has one constructor for each way in which a
step can end, and says all that the step depends on: the mode, the location,
the characters it covers, and the one character after them, which is
`next?`. `Mode.Faults mode here cs fault` lists the faults in the same way.
`step_eq_ok_iff` and `step_eq_error_iff` say that the two relations are the
executable step, so what follows argues by cases on them and never opens the
step again.

Since a relation sees only the next character, a step is the same step
before every text that goes on with that character. A step into code is the
same before most other characters too (`Takes.before_other`).
-/
import ScriptLexer.Mode
import ScriptLexer.Proofs.Spelling

namespace ScriptLexer

open Recognizer (Reads)

/-! ## The relations -/

/-- What stands in front of literal text: the opening mark, if it has not
been read yet. -/
inductive Entry : Option Quote → List Char → Quote → Prop where
  | first (q : Quote) : Entry none [q.char] q
  | later (q : Quote) : Entry (some q) [] q

namespace Mode

/-- The modes in which code is read. -/
inductive ReadsCode : Mode → Prop where
  | code : ReadsCode .code
  | expression (q : Quote) (opened : Location) : ReadsCode (.expression q opened)

/-- The step `s` is taken in a mode at `here` if `next?` is the character
after what it covers. -/
inductive Takes : Mode → Location → Step → Option Char → Prop where
  /-- A token of ordinary code. -/
  | token {here : Location} {w : List Char} {l : Lexeme} {next? : Option Char} :
      Spells w l → (∀ c ∈ next?, ¬ l.Fuses c) →
      Takes .code here ⟨some l, w, .code⟩ next?
  /-- A token of an expression. A `}` is one only before another. -/
  | inner {q : Quote} {opened here : Location} {w : List Char} {l : Lexeme}
      {next? : Option Char} :
      Spells w l → (∀ c ∈ next?, ¬ l.Fuses c) → (w = ['\x7d'] → next? = some '\x7d') →
      Takes (.expression q opened) here ⟨some l, w, .expression q opened⟩ next?
  /-- The `$` of an interpolated string. -/
  | start {here : Location} {next? : Option Char} :
      Takes .code here ⟨some ⟨.interpolationStart, ['$']⟩, ['$'], .literal none here⟩ next?
  /-- A `$` inside an expression. -/
  | nested {q : Quote} {opened here : Location} {next? : Option Char} :
      Takes (.expression q opened) here
        ⟨some ⟨.interpolationStart, ['$']⟩, ['$'], .expression q opened⟩ next?
  /-- The `}` that ends an expression. -/
  | close {q : Quote} {opened here : Location} {next? : Option Char} :
      next? ≠ some '\x7d' →
      Takes (.expression q opened) here ⟨none, ['\x7d'], .literal (some q) opened⟩ next?
  /-- Literal text up to the closing mark. -/
  | text {quote? : Option Quote} {q : Quote} {opened here : Location} {mark raw : List Char} :
      Entry quote? mark q → Segment.Units q raw → mark ++ raw ≠ [] →
      Takes (.literal quote? opened) here
        ⟨some ⟨.string, Text.decode (Segment.undouble raw)⟩, mark ++ raw,
          .literal (some q) opened⟩ (some q.char)
  /-- Literal text up to an expression, with the `{` that opens it. -/
  | brace {quote? : Option Quote} {q : Quote} {opened here : Location}
      {mark raw : List Char} {next? : Option Char} :
      Entry quote? mark q → Segment.Units q raw → next? ≠ some '\x7b' →
      Takes (.literal quote? opened) here
        ⟨if raw.isEmpty then none else some ⟨.string, Text.decode (Segment.undouble raw)⟩,
          mark ++ (raw ++ ['\x7b']), .expression q opened⟩ next?
  /-- The closing mark. -/
  | finish {q : Quote} {opened here : Location} {next? : Option Char} :
      Takes (.literal (some q) opened) here
        ⟨some ⟨.interpolationEnd, [q.char]⟩, [q.char], .code⟩ next?

/-- The text `cs` in front of the lexer, in a mode at `here`, is a fault. -/
inductive Faults : Mode → Location → List Char → Fault → Prop where
  /-- A plain string that nothing closes. -/
  | string {mode : Mode} {here : Location} {q : Quote} {cs : List Char} :
      mode.ReadsCode → q.body? cs = none →
      Faults mode here (q.char :: cs) ⟨.unterminatedString q.char, here⟩
  /-- A character that no token begins with. -/
  | character {mode : Mode} {here : Location} {c : Char} {cs : List Char} :
      mode.ReadsCode → initial? c = none → c ≠ '$' →
      Faults mode here (c :: cs) ⟨.unexpectedCharacter c, here⟩
  /-- A `$` with no mark after it. -/
  | terminator {opened here : Location} {c : Char} {cs : List Char} :
      Quote.ofChar? c = none →
      Faults (.literal none opened) here (c :: cs) ⟨.invalidTerminator c, here⟩
  /-- Literal text that nothing ends. -/
  | text {quote? : Option Quote} {q : Quote} {opened here : Location} {mark cs : List Char} :
      Entry quote? mark q → mark ++ cs ≠ [] → Segment.scan q cs = none →
      Faults (.literal quote? opened) here (mark ++ cs) ⟨.unterminatedInterpolation, opened⟩

/-! ## Steps through code -/

section

variable {mode dollar : Mode} {here : Location} {c : Char} {cs : List Char}

theorem codeStep_eq_ok_iff {s : Step} :
    codeStep Recognizer.code mode dollar here c cs = .ok s ↔
      (∃ w l, Reads (c :: cs) w l ∧ s = ⟨some l, w, mode⟩) ∨
      (c = '$' ∧ s = ⟨some ⟨.interpolationStart, ['$']⟩, ['$'], dollar⟩) := by
  constructor
  · intro h
    unfold codeStep at h
    split at h
    · next l w hread =>
      cases h
      exact .inl ⟨w, l, Recognizer.code_eq_accepted_iff.mp hread, rfl⟩
    · cases h
    · split at h
      · next hc =>
        cases h
        exact .inr ⟨hc, by rw [hc]⟩
      · cases h
  · intro h
    rcases h with ⟨w, l, hread, rfl⟩ | ⟨rfl, rfl⟩
    · rw [codeStep, Recognizer.code_eq_accepted_iff.mpr hread]
    · have hdeclined : Recognizer.code ('$' :: cs) = .declined :=
        Recognizer.code_eq_declined_iff.mpr (by decide)
      rw [codeStep, hdeclined]
      rfl

theorem codeStep_eq_error_iff {fault : Fault} :
    codeStep Recognizer.code mode dollar here c cs = .error fault ↔
      (∃ q : Quote, c = q.char ∧ q.body? cs = none ∧
        fault = ⟨.unterminatedString q.char, here⟩) ∨
      (initial? c = none ∧ c ≠ '$' ∧ fault = ⟨.unexpectedCharacter c, here⟩) := by
  constructor
  · intro h
    unfold codeStep at h
    split at h
    · cases h
    · next cause hread =>
      cases h
      obtain ⟨q, ds, hds, hbody, rfl⟩ := Recognizer.code_eq_refused_iff.mp hread
      cases hds
      exact .inl ⟨q, rfl, hbody, rfl⟩
    · next hread =>
      split at h
      · cases h
      · next hc =>
        cases h
        exact .inr ⟨Recognizer.code_eq_declined_iff.mp hread, hc, rfl⟩
  · intro h
    rcases h with ⟨q, rfl, hbody, rfl⟩ | ⟨hc, hdollar, rfl⟩
    · have hread := Recognizer.code_eq_refused_iff.mpr ⟨q, cs, rfl, hbody, rfl⟩
      rw [codeStep, hread]
    · rw [codeStep, Recognizer.code_eq_declined_iff.mpr hc]
      simp [hdollar]

/-- A `}` in front of a recognizer is a token by itself. -/
theorem reads_closeBrace {w : List Char} {l : Lexeme} (h : Reads ('\x7d' :: cs) w l) :
    w = ['\x7d'] := by
  have hread := Recognizer.code_eq_accepted_iff.mpr h
  rw [Recognizer.code_of_initial? (i := .punctuation) (by decide)] at hread
  cases hread
  rfl

end

/-! ## Steps through literal text -/

section

variable {q : Quote} {opened : Location} {mark cs : List Char}

theorem segmentStep_eq_ok_iff {s : Step} :
    segmentStep q opened mark cs = .ok s ↔ ∃ raw r, Segment.Units q raw ∧
      ((cs = raw ++ q.char :: r ∧
          s = ⟨some ⟨.string, Text.decode (Segment.undouble raw)⟩, mark ++ raw,
            .literal (some q) opened⟩) ∨
        (cs = raw ++ '\x7b' :: r ∧ r.head? ≠ some '\x7b' ∧
          s = ⟨if raw.isEmpty then none
              else some ⟨.string, Text.decode (Segment.undouble raw)⟩,
            mark ++ (raw ++ ['\x7b']), .expression q opened⟩)) := by
  constructor
  · intro h
    unfold segmentStep at h
    split at h
    · cases h
    · next g hscan =>
      cases h
      obtain ⟨raw, o⟩ := g
      obtain ⟨hunits, r, hcs⟩ := Segment.scan_eq_some_iff.mp hscan
      refine ⟨raw, r, hunits, ?_⟩
      cases o with
      | false => exact .inl ⟨by simpa using hcs, by simp [Segment.covered, Segment.text]⟩
      | true =>
        obtain ⟨hcs, hr⟩ : cs = raw ++ '\x7b' :: r ∧ r.head? ≠ some '\x7b' := by
          simpa using hcs
        exact .inr ⟨hcs, hr, by simp [Segment.covered, Segment.text]⟩
  · intro h
    obtain ⟨raw, r, hunits, ⟨rfl, rfl⟩ | ⟨rfl, hr, rfl⟩⟩ := h
    · rw [segmentStep, Segment.scan_append_mark hunits]
      simp [Segment.covered, Segment.text]
    · rw [segmentStep, Segment.scan_append_open hunits hr]
      simp [Segment.covered, Segment.text]

theorem segmentStep_eq_error_iff {fault : Fault} :
    segmentStep q opened mark cs = .error fault ↔
      Segment.scan q cs = none ∧ fault = ⟨.unterminatedInterpolation, opened⟩ := by
  unfold segmentStep
  split
  · next hscan => simp [hscan, eq_comm]
  · next g hscan => simp [hscan]

end

/-! ## The step is the relation -/

section

variable {mode : Mode} {here : Location} {c : Char} {cs : List Char}

theorem step_literal_none (q : Quote) (opened : Location) :
    step Recognizer.code (.literal none opened) here q.char cs =
      segmentStep q opened [q.char] cs := by
  simp [step]

theorem step_literal_some {q : Quote} (opened : Location) (hc : c ≠ q.char) :
    step Recognizer.code (.literal (some q) opened) here c cs =
      segmentStep q opened [] (c :: cs) := by
  simp [step, hc]

/-- A step that enters literal text is a step through a segment. -/
theorem step_of_entry {quote? : Option Quote} {q : Quote} {mark text : List Char}
    (opened : Location) (hentry : Entry quote? mark q) (hcs : c :: cs = mark ++ text)
    (hopen : mark = [] → text.head? ≠ some q.char) :
    step Recognizer.code (.literal quote? opened) here c cs = segmentStep q opened mark text := by
  cases hentry with
  | first =>
    cases hcs
    exact step_literal_none q opened
  | later =>
    cases hcs
    exact step_literal_some opened fun hc => hopen rfl (by rw [hc]; rfl)

/-- A step that is taken covers the beginning of the text, is one of the
relation, and looks at the next character only. -/
theorem takes_of_step {s : Step} (h : step Recognizer.code mode here c cs = .ok s) :
    ∃ r, c :: cs = s.covered ++ r ∧ Takes mode here s r.head? := by
  cases mode with
  | code =>
    rcases codeStep_eq_ok_iff.mp h with ⟨w, l, ⟨hspells, r, hr, happart⟩, rfl⟩ | ⟨rfl, rfl⟩
    · exact ⟨r, hr, .token hspells happart⟩
    · exact ⟨cs, rfl, .start⟩
  | literal quote? opened =>
    cases quote? with
    | none =>
      cases hq : Quote.ofChar? c with
      | none => simp [step, hq] at h
      | some q =>
        rw [Quote.ofChar?_eq_some_iff.mp hq] at h ⊢
        rw [step_literal_none] at h
        obtain ⟨raw, r, hunits, ⟨rfl, rfl⟩ | ⟨rfl, hr, rfl⟩⟩ := segmentStep_eq_ok_iff.mp h
        · exact ⟨q.char :: r, by simp, .text (.first q) hunits (by simp)⟩
        · exact ⟨r, by simp, .brace (.first q) hunits hr⟩
    | some q =>
      by_cases hc : c = q.char
      · simp only [step, hc, if_true] at h
        cases h
        exact ⟨cs, by rw [hc]; rfl, .finish⟩
      · rw [step_literal_some opened hc] at h
        obtain ⟨raw, r, hunits, ⟨hcs, rfl⟩ | ⟨hcs, hr, rfl⟩⟩ := segmentStep_eq_ok_iff.mp h
        · refine ⟨q.char :: r, hcs, .text (.later q) hunits ?_⟩
          -- with no text the mark itself would stand here
          intro hnil
          rw [List.nil_append] at hnil
          rw [hnil] at hcs
          exact hc (List.cons.inj hcs).1
        · exact ⟨r, by simp [hcs], .brace (.later q) hunits hr⟩
  | expression q opened =>
    simp only [step] at h
    split at h
    · next hclose =>
      obtain ⟨rfl, hsingle⟩ := hclose
      cases h
      exact ⟨cs, rfl, .close hsingle⟩
    · next hclose =>
      rcases codeStep_eq_ok_iff.mp h with ⟨w, l, ⟨hspells, r, hr, happart⟩, rfl⟩ | ⟨rfl, rfl⟩
      · refine ⟨r, hr, .inner hspells happart ?_⟩
        intro hw
        rw [hw] at hr
        obtain ⟨rfl, rfl⟩ := List.cons.inj hr
        exact Classical.byContradiction fun hnext => hclose ⟨rfl, hnext⟩
      · exact ⟨cs, rfl, .nested⟩

/-- A step of the relation is taken before every text that begins with the
next character. -/
theorem step_of_takes {s : Step} {r : List Char} (hcs : c :: cs = s.covered ++ r)
    (h : Takes mode here s r.head?) : step Recognizer.code mode here c cs = .ok s := by
  generalize hnext : r.head? = next? at h
  cases h with
  | token hspells happart =>
    subst hnext
    exact codeStep_eq_ok_iff.mpr (.inl ⟨_, _, ⟨hspells, r, hcs, happart⟩, rfl⟩)
  | inner hspells happart hbrace =>
    subst hnext
    have hreads : Reads (c :: cs) _ _ := ⟨hspells, r, hcs, happart⟩
    have hopen : ¬ (c = '\x7d' ∧ cs.head? ≠ some '\x7d') := by
      intro hclose
      obtain ⟨rfl, hhead⟩ := hclose
      have hw := reads_closeBrace hreads
      rw [hw] at hcs
      exact hhead ((List.cons.inj hcs).2 ▸ hbrace hw)
    simp only [step, if_neg hopen]
    exact codeStep_eq_ok_iff.mpr (.inl ⟨_, _, hreads, rfl⟩)
  | start =>
    cases hcs
    exact codeStep_eq_ok_iff.mpr (.inr ⟨rfl, rfl⟩)
  | nested =>
    cases hcs
    simp only [step]
    exact codeStep_eq_ok_iff.mpr (.inr ⟨rfl, rfl⟩)
  | close hsingle =>
    subst hnext
    cases hcs
    simp [step, hsingle]
  | @text quote? q opened _ mark raw hentry hunits hne =>
    obtain ⟨ds, rfl⟩ := List.head?_eq_some_iff.mp hnext
    cases hentry with
    | first =>
      cases hcs
      rw [step_literal_none]
      exact segmentStep_eq_ok_iff.mpr ⟨raw, ds, hunits, .inl ⟨rfl, rfl⟩⟩
    | later =>
      rw [step_literal_some opened (hunits.head_ne hne hcs)]
      exact segmentStep_eq_ok_iff.mpr ⟨raw, ds, hunits, .inl ⟨hcs, rfl⟩⟩
  | @brace quote? q opened _ mark raw _ hentry hunits hsingle =>
    subst hnext
    cases hentry with
    | first =>
      cases hcs
      rw [step_literal_none]
      exact segmentStep_eq_ok_iff.mpr ⟨raw, r, hunits, .inr ⟨by simp, hsingle, rfl⟩⟩
    | later =>
      have hraw : c :: cs = raw ++ '\x7b' :: r := by simpa using hcs
      have hc : c ≠ q.char := by
        by_cases hnil : raw = []
        · rw [hnil] at hraw
          rw [(List.cons.inj hraw).1]
          exact q.char_ne.2.1.symm
        · exact hunits.head_ne hnil hraw
      rw [step_literal_some opened hc]
      exact segmentStep_eq_ok_iff.mpr ⟨raw, r, hunits, .inr ⟨hraw, hsingle, rfl⟩⟩
  | finish =>
    cases hcs
    simp [step]

theorem step_eq_ok_iff {s : Step} : step Recognizer.code mode here c cs = .ok s ↔
    ∃ r, c :: cs = s.covered ++ r ∧ Takes mode here s r.head? :=
  ⟨takes_of_step, fun ⟨_, hcs, h⟩ => step_of_takes hcs h⟩

/-- A step that fails is a fault of the relation. -/
theorem faults_of_step {fault : Fault}
    (h : step Recognizer.code mode here c cs = .error fault) :
    Faults mode here (c :: cs) fault := by
  cases mode with
  | code =>
    rcases codeStep_eq_error_iff.mp h with ⟨q, rfl, hbody, rfl⟩ | ⟨hc, hdollar, rfl⟩
    · exact .string .code hbody
    · exact .character .code hc hdollar
  | literal quote? opened =>
    cases quote? with
    | none =>
      cases hq : Quote.ofChar? c with
      | none =>
        simp only [step, hq] at h
        cases h
        exact .terminator hq
      | some q =>
        rw [Quote.ofChar?_eq_some_iff.mp hq] at h ⊢
        rw [step_literal_none] at h
        obtain ⟨hscan, rfl⟩ := segmentStep_eq_error_iff.mp h
        exact .text (.first q) (by simp) hscan
    | some q =>
      by_cases hc : c = q.char
      · simp [step, hc] at h
      · rw [step_literal_some opened hc] at h
        obtain ⟨hscan, rfl⟩ := segmentStep_eq_error_iff.mp h
        exact .text (.later q) (by simp) hscan
  | expression q opened =>
    simp only [step] at h
    split at h
    · cases h
    · rcases codeStep_eq_error_iff.mp h with ⟨q', rfl, hbody, rfl⟩ | ⟨hc, hdollar, rfl⟩
      · exact .string (.expression q opened) hbody
      · exact .character (.expression q opened) hc hdollar

/-- Where the relation has a fault the step fails. -/
theorem step_of_faults {fault : Fault} (h : Faults mode here (c :: cs) fault) :
    step Recognizer.code mode here c cs = .error fault := by
  generalize htext : c :: cs = text at h
  cases h with
  | @string _ _ q _ hmode hbody =>
    cases htext
    cases hmode with
    | code => exact codeStep_eq_error_iff.mpr (.inl ⟨q, rfl, hbody, rfl⟩)
    | expression =>
      simp only [step, q.char_ne.2.2, false_and, if_false]
      exact codeStep_eq_error_iff.mpr (.inl ⟨q, rfl, hbody, rfl⟩)
  | @character _ _ _ _ hmode hc hdollar =>
    cases htext
    cases hmode with
    | code => exact codeStep_eq_error_iff.mpr (.inr ⟨hc, hdollar, rfl⟩)
    | expression =>
      have hbrace : c ≠ '\x7d' := by
        intro hbrace
        rw [hbrace] at hc
        exact absurd hc (by decide)
      simp only [step, hbrace, false_and, if_false]
      exact codeStep_eq_error_iff.mpr (.inr ⟨hc, hdollar, rfl⟩)
  | terminator hq =>
    cases htext
    simp [step, hq]
  | @text quote? q opened _ mark _ hentry hne hscan =>
    cases hentry with
    | first =>
      cases htext
      rw [step_literal_none]
      exact segmentStep_eq_error_iff.mpr ⟨hscan, rfl⟩
    | later =>
      cases htext
      have hc : c ≠ q.char := by
        intro hmark
        rw [hmark] at hscan
        simp at hscan
      rw [step_literal_some opened hc]
      exact segmentStep_eq_error_iff.mpr ⟨hscan, rfl⟩

theorem step_eq_error_iff {fault : Fault} :
    step Recognizer.code mode here c cs = .error fault ↔ Faults mode here (c :: cs) fault :=
  ⟨faults_of_step, step_of_faults⟩

end

/-! ## What comes after a step -/

section

variable {mode : Mode} {here : Location} {s : Step} {next? other? : Option Char}

/-- What comes after a step does not go on with the token it makes. -/
theorem Takes.apart (h : mode.Takes here s next?) :
    ∀ l ∈ s.lexeme?, ∀ c ∈ next?, ¬ l.Fuses c := by
  intro l hl
  cases h with
  | token _ happart =>
    cases hl
    exact happart
  | inner _ happart =>
    cases hl
    exact happart
  | brace =>
    split at hl
    · cases hl
    · cases hl
      exact fun _ _ => not_fuses_string
  | close => cases hl
  | start | nested | text | finish =>
    cases hl
    simp [Lexeme.Fuses]

/-- A step into code is also taken before what else does not go on with its
token. Braces come in pairs, so no `}` may be lost and no `{` gained. -/
theorem Takes.before_other (h : mode.Takes here s next?) (hreads : s.next.ReadsCode)
    (hnext : next? ≠ some '\x7d') (hother : other? ≠ some '\x7b')
    (happart : ∀ l ∈ s.lexeme?, ∀ c ∈ other?, ¬ l.Fuses c) : mode.Takes here s other? := by
  cases h with
  | token hspells => exact .token hspells (happart _ rfl)
  | inner hspells _ hbrace =>
    exact .inner hspells (happart _ rfl) fun hw => absurd (hbrace hw) hnext
  | nested => exact .nested
  | brace hentry hunits => exact .brace hentry hunits hother
  | finish => exact .finish
  | _ => cases hreads

end

end Mode

end ScriptLexer
