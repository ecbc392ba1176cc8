/-
ScriptLexer.Proofs.Trace — what a trace tells of a run.

A trace has a first event and a last one, and between them the changes of mode.
A step that is taken stays in its mode or makes one of five changes
(`Mode.Takes.stays_or_changes`), so the changes along a path lead from the mode
at its beginning to the mode at its end (`Path.leads`), and inside an
interpolated string they keep the `$` and the mark (`Leads.keeps`).

The changes out of ordinary code and back into it tell where interpolated
strings begin and end. They are read off a path together with its brackets:
`Told` says that both are those of the same strings, and a path back to
ordinary code keeps it up from its end to its beginning (`Path.told`). All of
it is put together in `trace_changes`.
-/
import ScriptLexer.Command.Log
import ScriptLexer.Proofs.Interpolation

namespace ScriptLexer

/-! ## Changes of mode -/

/-- The changes of mode that a step can make. What a mode remembers of the
string it is in goes over into the next. -/
inductive Mode.ChangesTo : Mode → Mode → Prop where
  /-- From ordinary code into an interpolated string. -/
  | start (opened : Location) : ChangesTo .code (.literal none opened)
  /-- Past literal text that begins the string. -/
  | text (q : Quote) (opened : Location) :
      ChangesTo (.literal none opened) (.literal (some q) opened)
  /-- From literal text into an expression. -/
  | brace {quote? : Option Quote} {q : Quote} (opened : Location) :
      (quote? = none ∨ quote? = some q) →
      ChangesTo (.literal quote? opened) (.expression q opened)
  /-- From an expression back into literal text. -/
  | close (q : Quote) (opened : Location) :
      ChangesTo (.expression q opened) (.literal (some q) opened)
  /-- From literal text back into ordinary code. -/
  | finish (q : Quote) (opened : Location) : ChangesTo (.literal (some q) opened) .code

theorem Mode.Takes.stays_or_changes {mode : Mode} {here : Location} {s : Step}
    {next? : Option Char} (h : mode.Takes here s next?) :
    s.next = mode ∨ mode.ChangesTo s.next := by
  cases h with
  | token => exact .inl rfl
  | inner => exact .inl rfl
  | nested => exact .inl rfl
  | start => exact .inr (.start _)
  | close => exact .inr (.close _ _)
  | finish => exact .inr (.finish _ _)
  | text hentry =>
    cases hentry with
    | first => exact .inr (.text _ _)
    | later => exact .inl rfl
  | brace hentry =>
    cases hentry with
    | first => exact .inr (.brace _ (.inl rfl))
    | later => exact .inr (.brace _ (.inr rfl))

/-- What one mode remembers of an interpolated string, another mode remembers
too: the location of the `$`, and the mark if it has been read. -/
structure Mode.Keeps (a b : Mode) : Prop where
  opened : b.opened? = a.opened?
  quote : ∀ q, a.quote? = some q → b.quote? = some q

theorem Mode.Keeps.trans {a b c : Mode} (hab : a.Keeps b) (hbc : b.Keeps c) : a.Keeps c :=
  ⟨hbc.opened.trans hab.opened, fun q hq => hbc.quote q (hab.quote q hq)⟩

theorem Mode.ne_code_of_opened? {mode : Mode} {opened : Location}
    (h : mode.opened? = some opened) : mode ≠ .code := by
  intro hcode
  rw [hcode] at h
  cases h

/-- A change inside an interpolated string forgets nothing. -/
theorem Mode.ChangesTo.keeps {a b : Mode} (h : a.ChangesTo b) (ha : a ≠ .code) (hb : b ≠ .code) :
    a.Keeps b := by
  cases h with
  | start => exact absurd rfl ha
  | finish => exact absurd rfl hb
  | text => exact ⟨rfl, fun _ hq => by cases hq⟩
  | close => exact ⟨rfl, fun _ hq => hq⟩
  | brace _ hquote =>
    refine ⟨rfl, ?_⟩
    intro q hq
    rcases hquote with rfl | rfl
    · cases hq
    · exact hq

/-- A change of mode, and the offset where the step that makes it begins. -/
structure Change where
  before : Mode
  after : Mode
  offset : Nat
  deriving DecidableEq, Repr

/-- The event that reports a change. -/
def Change.event (c : Change) : Event :=
  .changed c.before c.after c.offset

/-- The change that a move makes, if it makes one. -/
def Move.change? (m : Move) : Option Change :=
  if m.step.next = m.mode then none else some ⟨m.mode, m.step.next, m.mark.offset⟩

/-- The changes that moves make. -/
def changesOf (ms : List Move) : List Change :=
  ms.filterMap Move.change?

theorem Move.change?_of_stays {m : Move} (h : m.step.next = m.mode) : m.change? = none :=
  if_pos h

theorem Move.change?_of_changes {m : Move} (h : m.step.next ≠ m.mode) :
    m.change? = some ⟨m.mode, m.step.next, m.mark.offset⟩ :=
  if_neg h

theorem Move.offset_of_change? {m : Move} {c : Change} (h : m.change? = some c) :
    c.offset = m.mark.offset := by
  by_cases hstays : m.step.next = m.mode
  · rw [change?_of_stays hstays] at h
    cases h
  · rw [change?_of_changes hstays] at h
    cases h
    rfl

theorem changesOf_cons (m : Move) (ms : List Move) :
    changesOf (m :: ms) = m.change?.toList ++ changesOf ms := by
  rw [changesOf, List.filterMap_cons]
  cases m.change? <;> rfl

theorem Event.ofMove?_eq (m : Move) : ofMove? m = m.change?.map Change.event := by
  by_cases h : m.step.next = m.mode
  · rw [Move.change?_of_stays h, ofMove?, if_pos h]
    rfl
  · rw [Move.change?_of_changes h, ofMove?, if_neg h]
    rfl

/-- A trace in terms of the changes of its run. -/
theorem trace_eq (text filename : String) :
    trace text filename =
      .started filename text.length ::
        (changesOf (Run.ofText Recognizer.code text).moves).map Change.event ++
        [.ofOutcome filename (lex text filename)] := by
  have hmoves : ∀ ms : List Move, ms.filterMap Event.ofMove? = (changesOf ms).map Change.event := by
    intro ms
    rw [changesOf, List.map_filterMap]
    exact congrFun (congrArg List.filterMap (funext Event.ofMove?_eq)) ms
  rw [trace, hmoves]
  rfl

/-! ## Changes along a path -/

/-- The changes lead from one mode to another: each is one that a step can make,
and begins in the mode in which the one before it ends. -/
inductive Leads : Mode → List Change → Mode → Prop where
  | nil {mode : Mode} : Leads mode [] mode
  | cons {mode mode' : Mode} {c : Change} {cs : List Change} :
      c.before = mode → mode.ChangesTo c.after → Leads c.after cs mode' →
      Leads mode (c :: cs) mode'

namespace Leads

variable {mode mode' : Mode} {cs : List Change}

theorem split {cs' : List Change} (h : Leads mode (cs ++ cs') mode') :
    ∃ mid, Leads mode cs mid ∧ Leads mid cs' mode' := by
  induction cs generalizing mode with
  | nil => exact ⟨mode, .nil, h⟩
  | cons c cs ih =>
    rw [List.cons_append] at h
    cases h with
    | cons hbefore hchange hrest =>
      obtain ⟨mid, first, second⟩ := ih hrest
      exact ⟨mid, .cons hbefore hchange first, second⟩

/-- A part of the changes leads from one mode to another too. -/
theorem of_infix {part : List Change} (h : Leads mode cs mode') (hpart : part <:+: cs) :
    ∃ a b, Leads a part b := by
  obtain ⟨before, after, rfl⟩ := hpart
  obtain ⟨mid, hfirst, -⟩ := h.split
  obtain ⟨start, -, hpart⟩ := hfirst.split
  exact ⟨start, mid, hpart⟩

/-- Changes that all begin inside an interpolated string are inside the same
one: its `$` stays the same, and its mark from where it has been read. -/
theorem keeps (h : Leads mode cs mode') (hinside : ∀ c ∈ cs, c.before ≠ .code) :
    cs.Pairwise fun a b => a.before.Keeps b.before := by
  induction h with
  | nil => exact .nil
  | @cons mode _ c cs hbefore hchange hrest ih =>
    obtain ⟨hc, hcs⟩ := List.forall_mem_cons.mp hinside
    have hpairwise := ih hcs
    refine .cons ?_ hpairwise
    cases hrest with
    | nil => simp
    | @cons _ _ d cs hnext _ _ =>
      -- the next change begins where this one ends, which is inside the string
      obtain ⟨hd, -⟩ := List.forall_mem_cons.mp hcs
      have hkeeps : c.before.Keeps d.before := by
        rw [hnext] at hd ⊢
        rw [hbefore] at hc ⊢
        exact hchange.keeps hc hd
      refine List.forall_mem_cons.mpr ⟨hkeeps, ?_⟩
      intro e he
      exact hkeeps.trans (List.rel_of_pairwise_cons hpairwise he)

end Leads

section

variable {mode mode' : Mode} {mark : Mark} {ms : List Move} {next? : Option Char}

/-- The changes along a path lead from its first mode to its last. -/
theorem Path.leads (h : Path mode mark ms mode' next?) : Leads mode (changesOf ms) mode' := by
  induction h with
  | nil => exact .nil
  | @cons mode _ mark s ms _ htakes _ ih =>
    rw [changesOf_cons]
    by_cases hstays : s.next = mode
    · rw [Move.change?_of_stays hstays, ← hstays]
      exact ih
    · rw [Move.change?_of_changes hstays]
      have hchange : mode.ChangesTo s.next := htakes.stays_or_changes.resolve_left hstays
      exact .cons rfl hchange ih

/-- Every change along a path begins after the one before it. -/
theorem Path.pairwise_changes (h : Path mode mark ms mode' next?) :
    (changesOf ms).Pairwise fun a b => a.offset < b.offset := by
  rw [changesOf, List.pairwise_filterMap]
  refine h.pairwise_offset.imp ?_
  intro a b hab c hc d hd
  rw [Move.offset_of_change? hc, Move.offset_of_change? hd]
  exact hab

end

/-! ## Changes and brackets -/

/-- The change with which an interpolated string begins. -/
def Interpolation.enter (i : Interpolation) : Change :=
  ⟨.code, .literal none i.first.location, i.first.start⟩

/-- The change with which an interpolated string ends. -/
def Interpolation.leave (i : Interpolation) : Change :=
  ⟨.literal (some i.quote) i.first.location, .code, i.last.start⟩

/-- The brackets have the kinds of one interpolated string: a `$`, any more of
them, and the closing mark. -/
structure Interpolation.Bracketed (i : Interpolation) : Prop where
  first : i.first.kind = .interpolationStart
  nested : ∀ t ∈ i.nested, t.kind = .interpolationStart
  last : i.last.kind = .interpolationEnd
  lexeme : i.last.lexeme = i.quote.char.toString

/-- The changes out of ordinary code. -/
def leavingCode (cs : List Change) : List Change :=
  cs.filter fun c => c.before = .code

/-- The changes back into ordinary code. -/
def backToCode (cs : List Change) : List Change :=
  cs.filter fun c => c.after = .code

section

variable {c : Change} {cs : List Change}

theorem leavingCode_cons_of_eq (h : c.before = .code) :
    leavingCode (c :: cs) = c :: leavingCode cs :=
  List.filter_cons_of_pos (by simpa using h)

theorem leavingCode_cons_of_ne (h : c.before ≠ .code) : leavingCode (c :: cs) = leavingCode cs :=
  List.filter_cons_of_neg (by simpa using h)

theorem backToCode_cons_of_eq (h : c.after = .code) : backToCode (c :: cs) = c :: backToCode cs :=
  List.filter_cons_of_pos (by simpa using h)

theorem backToCode_cons_of_ne (h : c.after ≠ .code) : backToCode (c :: cs) = backToCode cs :=
  List.filter_cons_of_neg (by simpa using h)

end

/-- The brackets behind the `$` of a string that is enclosed in `q`, and strings
after it. -/
structure Rest (q : Quote) (nested : List Token) (last : Token) (is : List Interpolation) :
    Prop where
  nested : ∀ t ∈ nested, t.kind = .interpolationStart
  kind : last.kind = .interpolationEnd
  lexeme : last.lexeme = q.char.toString
  later : ∀ i ∈ is, i.Bracketed

/-- Brackets and changes tell of the same interpolated strings, one after
another. In a mode inside a string both begin with the rest of that string. -/
inductive Told : Mode → List Token → List Change → Prop where
  | outside {is : List Interpolation} {cs : List Change} :
      (∀ i ∈ is, i.Bracketed) → leavingCode cs = is.map Interpolation.enter →
      backToCode cs = is.map Interpolation.leave →
      Told .code (is.flatMap Interpolation.brackets) cs
  | inside {mode : Mode} {opened : Location} {q : Quote} {nested : List Token} {last : Token}
      {is : List Interpolation} {cs : List Change} :
      mode.opened? = some opened → Rest q nested last is →
      leavingCode cs = is.map Interpolation.enter →
      backToCode cs = ⟨.literal (some q) opened, .code, last.start⟩ :: is.map Interpolation.leave →
      Told mode (nested ++ last :: is.flatMap Interpolation.brackets) cs

namespace Told

variable {mode : Mode} {ts : List Token} {cs : List Change}

theorem exists_strings (h : Told .code ts cs) :
    ∃ is : List Interpolation, ts = is.flatMap Interpolation.brackets ∧
      (∀ i ∈ is, i.Bracketed) ∧ leavingCode cs = is.map Interpolation.enter ∧
      backToCode cs = is.map Interpolation.leave := by
  generalize hcode : Mode.code = mode at h
  cases h with
  | outside his hleaving hback => exact ⟨_, rfl, his, hleaving, hback⟩
  | inside hopened =>
    subst hcode
    cases hopened

theorem exists_rest {opened : Location} (h : Told mode ts cs)
    (hopened : mode.opened? = some opened) :
    ∃ q nested last, ∃ is : List Interpolation,
      ts = nested ++ last :: is.flatMap Interpolation.brackets ∧ Rest q nested last is ∧
      leavingCode cs = is.map Interpolation.enter ∧
      backToCode cs =
        ⟨.literal (some q) opened, .code, last.start⟩ :: is.map Interpolation.leave := by
  cases h with
  | outside => cases hopened
  | inside hopened' hrest hleaving hback =>
    rw [hopened] at hopened'
    cases hopened'
    exact ⟨_, _, _, _, rfl, hrest, hleaving, hback⟩

/-- A step that makes no bracket and stays outside of strings, or inside the same
one, tells nothing new. -/
theorem of_quiet {m : Move} (h : Told m.step.next ts cs)
    (hquiet : m.step.next.opened? = m.mode.opened?) : Told m.mode ts (m.change?.toList ++ cs) := by
  by_cases hstays : m.step.next = m.mode
  · rw [Move.change?_of_stays hstays, ← hstays]
    exact h
  · rw [Move.change?_of_changes hstays]
    cases hopened : m.mode.opened? with
    | none =>
      have hcode : m.mode = .code := Mode.opened?_eq_none_iff.mp hopened
      rw [hopened] at hquiet
      rw [hcode, Mode.opened?_eq_none_iff.mp hquiet] at hstays
      exact absurd rfl hstays
    | some opened =>
      rw [hopened] at hquiet
      obtain ⟨q, nested, last, is, rfl, hrest, hleaving, hback⟩ := h.exists_rest hquiet
      refine .inside hopened hrest ?_ ?_
      · rw [← hleaving]
        exact leavingCode_cons_of_ne (Mode.ne_code_of_opened? hopened)
      · rw [← hback]
        exact backToCode_cons_of_ne (Mode.ne_code_of_opened? hquiet)

/-- A `$` in ordinary code begins a string. -/
theorem start {t : Token} (h : Told (.literal none t.location) ts cs)
    (hkind : t.kind = .interpolationStart) :
    Told .code (t :: ts) (⟨.code, .literal none t.location, t.start⟩ :: cs) := by
  obtain ⟨q, nested, last, is, rfl, hrest, hleaving, hback⟩ := h.exists_rest rfl
  have htold : Told .code ((⟨q, t, nested, last⟩ :: is : List Interpolation).flatMap
      Interpolation.brackets) (⟨.code, .literal none t.location, t.start⟩ :: cs) := by
    refine .outside (List.forall_mem_cons.mpr ⟨?_, hrest.later⟩) ?_ ?_
    · exact ⟨hkind, hrest.nested, hrest.kind, hrest.lexeme⟩
    · rw [leavingCode_cons_of_eq rfl, hleaving]
      rfl
    · rw [backToCode_cons_of_ne (by simp), hback]
      rfl
  simpa [Interpolation.brackets] using htold

/-- A `$` in an expression belongs to the string around it. -/
theorem nested {q : Quote} {opened : Location} {t : Token}
    (h : Told (.expression q opened) ts cs) (hkind : t.kind = .interpolationStart) :
    Told (.expression q opened) (t :: ts) cs := by
  obtain ⟨q', nested, last, is, rfl, hrest, hleaving, hback⟩ := h.exists_rest rfl
  rw [← List.cons_append]
  exact .inside rfl { hrest with nested := List.forall_mem_cons.mpr ⟨hkind, hrest.nested⟩ }
    hleaving hback

/-- A closing mark ends the string it is in. -/
theorem finish {q : Quote} {opened : Location} {t : Token} (h : Told .code ts cs)
    (hkind : t.kind = .interpolationEnd) (hlexeme : t.lexeme = q.char.toString) :
    Told (.literal (some q) opened) (t :: ts)
      (⟨.literal (some q) opened, .code, t.start⟩ :: cs) := by
  obtain ⟨is, rfl, his, hleaving, hback⟩ := h.exists_strings
  have hrest : Rest q [] t is := ⟨by simp, hkind, hlexeme, his⟩
  rw [← List.nil_append (t :: _)]
  refine .inside rfl hrest ?_ ?_
  · rw [leavingCode_cons_of_ne (by simp), hleaving]
  · rw [backToCode_cons_of_eq rfl, hback]

end Told

/-- The brackets and the changes of a path back to ordinary code. -/
theorem Path.told {mode : Mode} {mark : Mark} {ms : List Move} (h : Path mode mark ms .code none)
    (filename : String) : Told mode (bracketsOf filename ms) (changesOf ms) := by
  generalize hcode : Mode.code = mode' at h
  generalize none = next? at h
  induction h with
  | nil =>
    subst hcode
    have hnothing : Told .code (([] : List Interpolation).flatMap Interpolation.brackets) [] :=
      .outside (by simp) rfl rfl
    exact hnothing
  | @cons mode mode' mark s ms next? htakes _ ih =>
    have hrest := ih hcode
    rw [changesOf_cons]
    generalize (coveredText ms).head?.or next? = following at htakes
    cases htakes with
    | token hspells | inner hspells =>
      rw [bracketsOf_cons_of_not_bracket (by simpa using hspells.not_bracket)]
      exact hrest.of_quiet (m := ⟨_, _, _⟩) rfl
    | close =>
      rw [bracketsOf_cons_of_not_bracket (by simp)]
      exact hrest.of_quiet (m := ⟨_, _, _⟩) rfl
    | text | brace =>
      rw [bracketsOf_cons_of_not_bracket (by simp [TokenKind.isBracket])]
      exact hrest.of_quiet (m := ⟨_, _, _⟩) rfl
    | start =>
      rw [bracketsOf_cons_of_bracket rfl rfl]
      exact hrest.start rfl
    | nested =>
      rw [bracketsOf_cons_of_bracket rfl rfl, Move.change?_of_stays rfl]
      exact hrest.nested rfl
    | @finish q opened =>
      rw [bracketsOf_cons_of_bracket rfl rfl]
      exact hrest.finish rfl (by cases q <;> rfl)

/-! ## The law -/

/-- **Traces are faithful**: a trace is the size of the text, the changes of mode,
and the outcome. The changes lead from ordinary code from one mode to the next,
at offsets that increase, and remember the string they are in. If the text lexes
they end in ordinary code, and those that leave it and those that come back are,
in order, at the first and at the last bracket of each interpolated string. -/
theorem trace_changes (text filename : String) :
    ∃ changes last,
      trace text filename = .started filename text.length :: changes.map Change.event ++
        [match lex text filename with
          | .ok ts => .finished filename ts.length
          | .error e => .failed e] ∧
      (trace text filename).filterMap Command.LogEntry.ofEvent? =
        [⟨"lexing source", [("filename", filename), ("length", toString text.length)]⟩,
          match lex text filename with
          | .ok ts => ⟨"lexing finished", [("filename", filename), ("tokens", toString ts.length)]⟩
          | .error e => ⟨"lexing failed", [("error", e.display)]⟩] ∧
      (changes.Pairwise fun a b => a.offset < b.offset) ∧
      Leads .code changes last ∧
      (∀ part, part <:+: changes → (∀ c ∈ part, c.before ≠ .code) →
        part.Pairwise fun a b => a.before.Keeps b.before) ∧
      ∀ ts, lex text filename = .ok ts → last = .code ∧
        ∃ is : List Interpolation,
          (ts.filter fun t => t.kind.isBracket) = is.flatMap Interpolation.brackets ∧
          (∀ i ∈ is, i.Bracketed) ∧
          (changes.filter fun c => c.before = .code) = is.map Interpolation.enter ∧
          (changes.filter fun c => c.after = .code) = is.map Interpolation.leave := by
  obtain ⟨mode, r, htext, hpath, hstops⟩ := Run.exists_path .code .start text.toList
  have htrace := trace_eq text filename
  rw [Run.ofText] at htrace
  refine ⟨_, mode, ?_, ?_, hpath.pairwise_changes, hpath.leads, ?_, ?_⟩
  · rw [htrace]
    cases lex text filename <;> rfl
  · have hquiet : ∀ cs : List Change,
        (cs.map Change.event).filterMap Command.LogEntry.ofEvent? = [] := by
      intro cs
      rw [List.filterMap_eq_nil_iff]
      intro e he
      obtain ⟨c, -, rfl⟩ := List.mem_map.mp he
      rfl
    rw [htrace, List.cons_append, List.filterMap_cons, List.filterMap_append, hquiet]
    cases lex text filename <;> rfl
  · intro part hpart hinside
    obtain ⟨a, b, hleads⟩ := hpath.leads.of_infix hpart
    exact hleads.keeps hinside
  · intro ts h
    obtain ⟨hfault, rfl⟩ := lex_eq_ok_iff_run.mp h
    rw [Run.ofText] at hfault
    rw [hfault] at hstops
    obtain ⟨rfl, rfl⟩ := hstops.of_none
    exact ⟨rfl, (hpath.told filename).exists_strings⟩

/-- A `$` in an expression changes no mode; the two that begin a string do, and so
do the closing marks. -/
theorem trace_changes_nested :
    (trace "$'\x7b$\x7d'$\"\"" "a.mcl").filterMap (fun
      | .changed before after index => some (before, after, index)
      | _ => none) =
      [(.code, .literal none ⟨1, 1⟩, 0), (.literal none ⟨1, 1⟩, .expression .single ⟨1, 1⟩, 1),
        (.expression .single ⟨1, 1⟩, .literal (some .single) ⟨1, 1⟩, 4),
        (.literal (some .single) ⟨1, 1⟩, .code, 5), (.code, .literal none ⟨1, 7⟩, 6),
        (.literal none ⟨1, 7⟩, .literal (some .double) ⟨1, 7⟩, 7),
        (.literal (some .double) ⟨1, 7⟩, .code, 8)] ∧
    ∃ ts, lex "$'\x7b$\x7d'$\"\"" "a.mcl" = .ok ts ∧
      (ts.filter fun t => t.kind.isBracket).map Token.start = [0, 3, 5, 6, 8] ∧
      ∃ changes, trace "$'\x7b$\x7d'$\"\"" "a.mcl" =
          .started "a.mcl" 9 :: changes.map Change.event ++ [.finished "a.mcl" 6] ∧
        Leads .code changes .code ∧
        ∃ is : List Interpolation,
          (ts.filter fun t => t.kind.isBracket) = is.flatMap Interpolation.brackets ∧
          (changes.filter fun c => c.before = .code) = is.map Interpolation.enter ∧
          (changes.filter fun c => c.after = .code) = is.map Interpolation.leave := by
  have h : lex "$'\x7b$\x7d'$\"\"" "a.mcl" = .ok
      [⟨"$", .interpolationStart, ⟨1, 1⟩, 0, "a.mcl"⟩,
        ⟨"$", .interpolationStart, ⟨1, 4⟩, 3, "a.mcl"⟩,
        ⟨"'", .interpolationEnd, ⟨1, 6⟩, 5, "a.mcl"⟩,
        ⟨"$", .interpolationStart, ⟨1, 7⟩, 6, "a.mcl"⟩,
        ⟨"", .string, ⟨1, 8⟩, 7, "a.mcl"⟩,
        ⟨"\"", .interpolationEnd, ⟨1, 9⟩, 8, "a.mcl"⟩] := by
    cbv
  obtain ⟨changes, last, htrace, -, -, hleads, -, hlexed⟩ :=
    trace_changes "$'\x7b$\x7d'$\"\"" "a.mcl"
  obtain ⟨rfl, is, hbrackets, -, hleaving, hback⟩ := hlexed _ h
  rw [h] at htrace
  exact ⟨by cbv, _, h, by decide, changes, htrace, hleads, is, hbrackets, hleaving, hback⟩

end ScriptLexer
