/-
ScriptLexer.Proofs.Decoding — what the lexer gives to the decoder.

Strings are read in two phases. A loop looks for the end of a string and gathers its
text on the way, which the decoder goes through afterwards, on its own. The two agree
on what goes together: every turn of the loop adds whole units (`Loop.Collects.complete`),
so the decoder never comes to a backslash that it has nothing for.

In literal text the loop writes each doubled brace once, before the escapes are
decoded. That is as good as reading everything in one pass: what the decoder reads is,
one by one, what stands in the text as it is written, with a brace that stands for
itself where there were two (`Segment.symbols_undouble`). So such a brace is never taken
for half of an escape, and an escaped brace never for half of a doubled one.

`Mode.Hands` says what is handed from the loops to the decoder, from any mode and in
front of any text, and the main statement, `lex_hands_complete`, that it is complete.
-/
import Mathlib
import ScriptLexer.Proofs.Gathering

namespace ScriptLexer

/-! ## One pass -/

namespace Segment

/-- What is read as one in literal text. -/
inductive Symbol where
  /-- A brace that is written twice. -/
  | doubled (brace : Char)
  /-- What is read as one in a plain string, too. -/
  | single (s : Text.Symbol)
  deriving DecidableEq, Repr

namespace Symbol

/-- A symbol as it is written. -/
def written : Symbol → List Char
  | doubled brace => [brace, brace]
  | single s => s.written

/-- What a symbol is when doubled braces are written once: a brace that stands for
itself, or what it has been before. -/
def collapsed : Symbol → Text.Symbol
  | doubled brace => .plain brace
  | single s => s

end Symbol

/-- The symbols of literal text, from left to right. -/
def symbols : List Char → List Symbol
  | [] => []
  | ['\\'] => [.single .dangling]
  | '\\' :: c :: cs => .single (.escape c) :: symbols cs
  | '\x7b' :: '\x7b' :: cs => .doubled '\x7b' :: symbols cs
  | '\x7d' :: '\x7d' :: cs => .doubled '\x7d' :: symbols cs
  | c :: cs => .single (.plain c) :: symbols cs

/-- Nothing is lost when literal text is read. -/
theorem flatMap_written_symbols (cs : List Char) :
    (symbols cs).flatMap Symbol.written = cs := by
  induction cs using symbols.induct with
  | case1 => rfl
  | case2 => rfl
  | case3 c cs ih => rw [symbols, List.flatMap_cons, ih]; rfl
  | case4 cs ih => rw [symbols, List.flatMap_cons, ih]; rfl
  | case5 cs ih => rw [symbols, List.flatMap_cons, ih]; rfl
  | case6 c cs hlone hescape hopen hclose ih =>
    rw [symbols.eq_6 _ _ hlone hescape hopen hclose, List.flatMap_cons, ih]
    rfl

/-- The decoder reads the symbols of literal text with the doubled braces collapsed. -/
theorem symbols_undouble (cs : List Char) :
    Text.symbols (undouble cs) = (symbols cs).map Symbol.collapsed := by
  induction cs using symbols.induct with
  | case1 => rfl
  | case2 => rfl
  | case3 c cs ih => rw [undouble_escape, Text.symbols_escape, ih, symbols]; rfl
  | case4 cs ih => rw [undouble_openPair, Text.symbols_cons (by decide), ih, symbols]; rfl
  | case5 cs ih => rw [undouble_closePair, Text.symbols_cons (by decide), ih, symbols]; rfl
  | case6 c cs hlone hescape hopen hclose ih =>
    have hc : c ≠ '\\' := fun hc => hlone hc (Text.eq_nil_of_no_escape hescape hc)
    rw [undouble.eq_5 _ _ hescape hopen hclose, symbols.eq_6 _ _ hlone hescape hopen hclose,
      Text.symbols_cons hc, ih]
    rfl

end Segment

/-! ## What the lexer hands on -/

/-- From a mode, in front of a text, the lexer hands `held` to the decoder. -/
inductive Mode.Hands : Mode → List Char → List Char → Prop where
  /-- The body of a plain string, where the loop comes to the closing mark. -/
  | string {mode : Mode} {q : Quote} {cs held : List Char} {stop : Char} :
      mode.ReadsCode → (Loop.body q).Yields cs held stop → Hands mode (q.char :: cs) held
  /-- Literal text, where the loop comes to the closing mark. If it comes to a brace that
  opens an expression, then only if there is any text. -/
  | segment {quote? : Option Quote} {q : Quote} {opened : Location} {mark cs held : List Char}
      {stop : Char} :
      Entry quote? mark q → (mark = [] → cs.head? ≠ some q.char) →
      (Loop.literal q).Yields cs held stop → (held = [] → stop = q.char) →
      Hands (.literal quote? opened) (mark ++ cs) held

/-- Literal text is handed on at the closing mark, and at a brace if there is any. -/
theorem Mode.Hands.of_scan {quote? : Option Quote} {q : Quote} {mark cs : List Char} {s : Segment}
    (opened : Location) (hentry : Entry quote? mark q) (hopen : mark = [] → cs.head? ≠ some q.char)
    (hscan : Segment.scan q cs = some s) (htext : s.raw = [] → s.opensExpression = false) :
    Hands (.literal quote? opened) (mark ++ cs) (Segment.undouble s.raw) := by
  refine .segment hentry hopen (Loop.literal_yields_iff.mpr ⟨s, hscan, rfl, rfl⟩) ?_
  intro hheld
  simp [htext (Segment.undouble_eq_nil_iff.mp hheld)]

namespace Mode

variable {mode : Mode} {here : Location} {c : Char} {cs held w : List Char}

/-- What is handed to the decoder is made of whole units. -/
theorem Hands.complete (h : mode.Hands cs held) : Text.Complete held := by
  cases h with
  | string _ hyields => exact hyields.complete Loop.complete_keep_body
  | segment _ _ hyields _ => exact hyields.complete Loop.complete_keep_literal

/-- A plain string hands on its body. -/
theorem Hands.of_spells {t : List Char} (hmode : mode.ReadsCode) (h : Spells t ⟨.string, w⟩)
    (r : List Char) : ∃ held, mode.Hands (t ++ r) held ∧ w = Text.decode held := by
  cases h with
  | @string q b hb =>
    have hyields := Loop.body_yields_iff.mpr ⟨Quote.body?_append_mark hb r, rfl⟩
    exact ⟨b, by simpa using .string hmode hyields, rfl⟩

/-- A step that makes a string makes it of what it hands to the decoder. -/
theorem Takes.exists_hands {s : Step} {r : List Char} (h : mode.Takes here s r.head?)
    (hl : s.lexeme? = some ⟨.string, w⟩) :
    ∃ held, mode.Hands (s.covered ++ r) held ∧ w = Text.decode held := by
  generalize hnext : r.head? = next? at h
  cases h with
  | token hspells =>
    cases hl
    exact Hands.of_spells .code hspells r
  | inner hspells =>
    cases hl
    exact Hands.of_spells (.expression _ _) hspells r
  | start | nested | close | finish => cases hl
  | @text quote? q opened here mark raw hentry hunits hne =>
    cases hl
    obtain ⟨r, rfl⟩ := List.head?_eq_some_iff.mp hnext
    refine ⟨_, ?_, rfl⟩
    rw [List.append_assoc]
    refine .of_scan opened hentry ?_ (Segment.scan_append_mark hunits r) (fun _ => rfl)
    rintro rfl
    exact hunits.head?_append_ne hne _
  | @brace quote? q opened here mark raw next? hentry hunits hsingle =>
    subst hnext
    have hraw : raw ≠ [] := by
      rintro rfl
      cases hl
    rw [if_neg (by simpa using hraw)] at hl
    cases hl
    refine ⟨_, ?_, rfl⟩
    have hcovered : mark ++ (raw ++ ['\x7b']) ++ r = mark ++ (raw ++ '\x7b' :: r) := by simp
    rw [hcovered]
    exact .of_scan opened hentry (fun _ => hunits.head?_append_ne hraw _)
      (Segment.scan_append_open hunits hsingle) (fun hnil => absurd hnil hraw)

/-- Whatever is handed to the decoder, a step makes a string of it. -/
theorem exists_step_of_hands (h : mode.Hands (c :: cs) held) (here : Location) :
    ∃ s, mode.step Recognizer.code here c cs = .ok s ∧
      s.lexeme? = some ⟨.string, Text.decode held⟩ := by
  generalize htext : c :: cs = text at h
  cases h with
  | @string _ q rest held stop hmode hyields =>
    obtain ⟨hbody, -⟩ := Loop.body_yields_iff.mp hyields
    obtain ⟨hb, r, rfl⟩ := Quote.body?_eq_some_iff.mp hbody
    have hcs : c :: cs = q.char :: held ++ [q.char] ++ r := by simp [htext]
    have hspells := Spells.string q hb
    cases hmode with
    | code => exact ⟨_, step_of_takes hcs (.token hspells (by simp)), rfl⟩
    | expression => exact ⟨_, step_of_takes hcs (.inner hspells (by simp) (by simp)), rfl⟩
  | @segment quote? q opened mark rest held stop hentry hopen hyields hlast =>
    obtain ⟨s, hscan, rfl, rfl⟩ := Loop.literal_yields_iff.mp hyields
    have hmade : ¬ (s.opensExpression && s.raw.isEmpty) = true := by
      intro hnothing
      obtain ⟨hbrace, hraw⟩ : s.opensExpression = true ∧ s.raw = [] := by simpa using hnothing
      have hstop := hlast (by rw [hraw]; rfl)
      rw [hbrace] at hstop
      exact q.char_ne.2.1 hstop.symm
    rw [step_of_entry opened hentry htext hopen, segmentStep, hscan]
    exact ⟨_, rfl, if_neg hmade⟩

end Mode

/-! ## The law -/

/-- **Decoding afterwards is safe**: whatever a loop hands to the decoder, from any mode and
in front of any text, is made of whole units, so the decoder comes to no backslash
without a character. A step makes a string exactly if something is handed on, and its
lexeme is what that stands for; so it is for every string in the run over a text.

What is handed on from literal text is that text with doubled braces written once. It
stands for what the text stands for when it is read in one pass, and the decoder reads
in it the symbols of the text, one by one: each doubled brace as a brace, and each
escape as the same escape. -/
theorem lex_hands_complete (text : String) :
    (∀ mode cs held, Mode.Hands mode cs held →
      Text.Complete held ∧ .dangling ∉ Text.symbols held) ∧
    (∀ mode here c cs w,
      (∃ s, Mode.step Recognizer.code mode here c cs = .ok s ∧
        s.lexeme? = some ⟨.string, w⟩) ↔
        ∃ held, Mode.Hands mode (c :: cs) held ∧ w = Text.decode held) ∧
    (∀ m ∈ (Run.ofText Recognizer.code text).moves, ∀ w,
      m.step.lexeme? = some ⟨.string, w⟩ →
        ∃ held, m.mode.Hands (text.toList.drop m.mark.offset) held ∧ w = Text.decode held) ∧
    ∀ q cs held stop, (Loop.literal q).Yields cs held stop → ∃ s, Segment.scan q cs = some s ∧
      held = Segment.undouble s.raw ∧ Text.decode held = Segment.meaning s.raw ∧
      (Segment.symbols s.raw).flatMap Segment.Symbol.written = s.raw ∧
      Text.symbols held = (Segment.symbols s.raw).map Segment.Symbol.collapsed := by
  refine ⟨?_, ?_, ?_, ?_⟩
  · intro mode cs held h
    exact ⟨h.complete, Text.complete_iff_symbols.mp h.complete⟩
  · intro mode here c cs w
    constructor
    · rintro ⟨s, hstep, hl⟩
      obtain ⟨r, hcs, htakes⟩ := Mode.takes_of_step hstep
      rw [hcs]
      exact htakes.exists_hands hl
    · rintro ⟨held, h, rfl⟩
      exact Mode.exists_step_of_hands h here
  · intro m hm w hl
    obtain ⟨_, _, htext, hpath, -⟩ := Run.exists_path .code .start text.toList
    obtain ⟨r, hdrop, htakes⟩ := hpath.takes_of_mem htext m hm
    rw [hdrop]
    exact htakes.exists_hands hl
  · intro q cs held stop h
    obtain ⟨s, hscan, rfl, -⟩ := Loop.literal_yields_iff.mp h
    exact ⟨s, hscan, rfl, Segment.decode_undouble s.raw,
      Segment.flatMap_written_symbols s.raw, Segment.symbols_undouble s.raw⟩

/-- A doubled brace, and an escaped one in front of a brace that is not doubled. -/
theorem lex_hands_complete_escaped :
    (Mode.Hands (.literal none ⟨1, 1⟩) ['\'', '\x7b', '\x7b', '\\', '\x7d', '\x7d', '\'']
        ['\x7b', '\\', '\x7d', '\x7d'] ∧
      Text.Complete ['\x7b', '\\', '\x7d', '\x7d'] ∧
      .dangling ∉ Text.symbols ['\x7b', '\\', '\x7d', '\x7d']) ∧
    (∃ m ∈ (Run.ofText Recognizer.code "$'\x7b\x7b\\\x7d\x7d'").moves,
      m.step.lexeme? = some ⟨.string, ['\x7b', '\x7d', '\x7d']⟩ ∧
      ∃ held, m.mode.Hands ("$'\x7b\x7b\\\x7d\x7d'".toList.drop m.mark.offset) held ∧
        ['\x7b', '\x7d', '\x7d'] = Text.decode held) ∧
    (Loop.literal .single).Yields ['\x7b', '\x7b', '\\', '\x7d', '\x7d', '\'']
      ['\x7b', '\\', '\x7d', '\x7d'] '\'' ∧
    ∃ s, Segment.scan .single ['\x7b', '\x7b', '\\', '\x7d', '\x7d', '\''] = some s ∧
      ['\x7b', '\\', '\x7d', '\x7d'] = Segment.undouble s.raw ∧
      Text.decode ['\x7b', '\\', '\x7d', '\x7d'] = Segment.meaning s.raw ∧
      (Segment.symbols s.raw).flatMap Segment.Symbol.written = s.raw ∧
      Text.symbols ['\x7b', '\\', '\x7d', '\x7d'] =
        (Segment.symbols s.raw).map Segment.Symbol.collapsed := by
  obtain ⟨hcomplete, -, hrun, hpass⟩ := lex_hands_complete "$'\x7b\x7b\\\x7d\x7d'"
  have hyields : (Loop.literal .single).Yields ['\x7b', '\x7b', '\\', '\x7d', '\x7d', '\'']
      ['\x7b', '\\', '\x7d', '\x7d'] '\'' :=
    Loop.literal_yields_iff.mpr ⟨⟨['\x7b', '\x7b', '\\', '\x7d', '\x7d'], false⟩, rfl, rfl, rfl⟩
  have hhands : Mode.Hands (.literal none ⟨1, 1⟩)
      ['\'', '\x7b', '\x7b', '\\', '\x7d', '\x7d', '\''] ['\x7b', '\\', '\x7d', '\x7d'] :=
    .segment (.first .single) (by simp) hyields (fun _ => rfl)
  have hmoves : ((Run.ofText Recognizer.code "$'\x7b\x7b\\\x7d\x7d'").moves.map fun m =>
      m.step.lexeme?)[1]? = some (some ⟨.string, ['\x7b', '\x7d', '\x7d']⟩) := by cbv
  obtain ⟨m, hm, hl⟩ := List.mem_map.mp (List.mem_of_getElem? hmoves)
  exact ⟨⟨hhands, hcomplete _ _ _ hhands⟩, ⟨m, hm, hl, hrun m hm _ hl⟩, hyields,
    hpass _ _ _ _ hyields⟩

end ScriptLexer
