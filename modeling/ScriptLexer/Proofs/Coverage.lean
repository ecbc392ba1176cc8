/-
ScriptLexer.Proofs.Coverage — every character of a script is accounted for.

The span of a token is what the token is written as, and a gap. What is written
says what the lexeme is: the lexeme itself, a string between its marks, or
literal text. The gap holds nothing but what stands between two parts of an
interpolated string: its opening mark, and the braces of expressions. `Accounted`
has one constructor for each place that a token may stand in, and the main
statement, `lex_accounted`, says that there is no other span.

A gap is what the steps after a token cover that make no token themselves. Such
a step ends an expression or begins one with no text before it
(`Path.gap`), so gaps are braces by turns, however many expressions are empty.
-/
import Mathlib
import ScriptLexer.Proofs.Interpolation

namespace ScriptLexer

/-! ## Gaps -/

/-- The braces behind a token of an expression: the end of the expression, and
any number of expressions without tokens. -/
inductive Hollow : List Char → Prop where
  | nil : Hollow []
  | close : Hollow ['\x7d']
  | reopen {g : List Char} : Hollow g → Hollow ('\x7d' :: '\x7b' :: g)

/-- What steps without a token may cover from a mode on. -/
inductive Mode.Gap : Mode → List Char → Prop where
  | nil {mode : Mode} : Mode.Gap mode []
  | expression {q : Quote} {opened : Location} {g : List Char} :
      Hollow g → Mode.Gap (.expression q opened) g
  | literal {quote? : Option Quote} {q : Quote} {opened : Location} {mark g : List Char} :
      Entry quote? mark q → Hollow g → Mode.Gap (.literal quote? opened) (mark ++ '\x7b' :: g)

/-- Whether a move makes no token. -/
def Move.isSilent (m : Move) : Bool :=
  m.step.lexeme?.isNone

theorem Move.isSilent_iff {filename : String} {m : Move} :
    m.isSilent = true ↔ m.token? filename = none := by
  simp [isSilent, token?]

section

variable {mode mode' : Mode} {mark : Mark} {ms : List Move} {next? : Option Char}

theorem Mode.Gap.close {q : Quote} {opened : Location} {g : List Char}
    (h : Mode.Gap (.literal (some q) opened) g) : Hollow ('\x7d' :: g) := by
  cases h with
  | nil => exact .close
  | literal hentry hg =>
    cases hentry with
    | later => exact .reopen hg

theorem Mode.Gap.hollow {q : Quote} {opened : Location} {g : List Char}
    (h : Mode.Gap (.expression q opened) g) : Hollow g := by
  cases h with
  | nil => exact .nil
  | expression hg => exact hg

/-- Steps without a token cover braces, and the opening mark before the first. -/
theorem Path.gap (h : Path mode mark ms mode' next?) :
    mode.Gap (coveredText (ms.takeWhile Move.isSilent)) := by
  induction h with
  | nil => exact .nil
  | @cons mode mode' mark s ms next? htakes _ ih =>
    by_cases hsilent : Move.isSilent ⟨mark, mode, s⟩ = true
    · have hnone : s.lexeme? = none := by simpa [Move.isSilent] using hsilent
      rw [List.takeWhile_cons_of_pos hsilent, coveredText_cons]
      generalize (coveredText ms).head?.or next? = following at htakes
      cases htakes with
      | close => exact .expression ih.close
      | @brace _ _ _ _ _ raw _ hentry =>
        -- with text before the brace the step would have made a token
        have hraw : raw = [] := by
          by_contra hne
          simp [hne] at hnone
        subst hraw
        simpa using Mode.Gap.literal hentry ih.hollow
      | _ => cases hnone
    · rw [List.takeWhile_cons_of_neg hsilent]
      exact .nil

/-! ## Spans of moves -/

/-- The first token of a path starts behind the steps without a token. -/
theorem Path.start_of_head? (h : Path mode mark ms mode' next?) (filename : String) :
    ∀ t ∈ (ms.filterMap (Move.token? filename)).head?,
      t.start = mark.offset + (coveredText (ms.takeWhile Move.isSilent)).length := by
  induction h with
  | nil => simp
  | @cons mode _ mark s ms _ _ _ ih =>
    intro t ht
    cases htoken : Move.token? filename ⟨mark, mode, s⟩ with
    | none =>
      have hsilent : Move.isSilent ⟨mark, mode, s⟩ = true := Move.isSilent_iff.mpr htoken
      rw [List.filterMap_cons_none htoken] at ht
      rw [ih t ht, List.takeWhile_cons_of_pos hsilent, coveredText_cons]
      simp [Nat.add_assoc]
    | some u =>
      have hmade : ¬ Move.isSilent ⟨mark, mode, s⟩ = true := by
        rw [Move.isSilent_iff, htoken]
        simp
      rw [List.filterMap_cons_some htoken] at ht
      cases ht
      rw [List.takeWhile_cons_of_neg hmade, Move.start_of_token? htoken]
      simp

theorem takeWhile_isSilent_of_tokens_eq_nil {filename : String}
    (h : ms.filterMap (Move.token? filename) = []) : ms.takeWhile Move.isSilent = ms := by
  rw [List.takeWhile_eq_self_iff]
  exact fun m hm => Move.isSilent_iff.mpr (List.filterMap_eq_nil_iff.mp h m hm)

theorem coveredText_takeWhile_append_dropWhile (p : Move → Bool) (ms : List Move) :
    coveredText (ms.takeWhile p) ++ coveredText (ms.dropWhile p) = coveredText ms := by
  rw [← coveredText_append, List.takeWhile_append_dropWhile]

/-- The span of the first token of a path is what its move covers, and what the
steps without a token cover after it. -/
theorem Path.rawSpans_cons {text filename : String} {m : Move} {t : Token}
    (h : Path mode mark (m :: ms) mode' none) (ht : m.token? filename = some t)
    (htext : text.toList.drop mark.offset = coveredText (m :: ms)) :
    rawSpans text (t :: ms.filterMap (Move.token? filename)) =
      String.ofList (m.step.covered ++ coveredText (ms.takeWhile Move.isSilent)) ::
        rawSpans text (ms.filterMap (Move.token? filename)) := by
  cases h with
  | @cons _ _ _ s _ _ _ hrest =>
    have hstart : t.start = mark.offset := Move.start_of_token? ht
    have hhead := hrest.start_of_head? filename
    cases htokens : ms.filterMap (Move.token? filename) with
    | nil =>
      rw [rawSpans_singleton, hstart, htext, takeWhile_isSilent_of_tokens_eq_nil htokens]
      rfl
    | cons u us =>
      rw [htokens] at hhead
      have hu := hhead u rfl
      rw [rawSpans_cons_cons, hstart, htext, hu, coveredText_cons]
      rw [← coveredText_takeWhile_append_dropWhile Move.isSilent ms, ← List.append_assoc,
        List.take_left']
      simp only [Mark.offset_advance, List.length_append]
      omega

end

/-! ## Accounts -/

/-- What a token of code is written as: its lexeme, or a string of which the
lexeme is the meaning. -/
inductive Token.Written (t : Token) : List Char → Prop where
  | verbatim : t.kind ≠ .string → Token.Written t t.lexeme.toList
  | string (q : Quote) {b : List Char} : t.kind = .string → q.Body b →
      t.lexeme.toList = Text.decode b → Token.Written t (q.char :: b ++ [q.char])

/-- The span of a token of a text, taken apart. -/
inductive Accounted (text : String) (t : Token) : List Char → Prop where
  /-- A token of ordinary code has no gap. -/
  | code {w : List Char} : Boundary text t.start .code → t.kind ≠ .interpolationStart →
      t.Written w → Accounted text t w
  /-- A `$` of ordinary code may be followed by the opening mark and expressions
  without tokens. -/
  | start {g : List Char} : Boundary text t.start .code → t.kind = .interpolationStart →
      (g = [] ∨ ∃ (q : Quote) (h : List Char), g = q.char :: '\x7b' :: h ∧ Hollow h) →
      Accounted text t (t.lexeme.toList ++ g)
  /-- A token of an expression may be the last one of it. -/
  | inner {q : Quote} {opened : Location} {w g : List Char} :
      Boundary text t.start (.expression q opened) → t.Written w → Hollow g →
      Accounted text t (w ++ g)
  /-- Literal text of the string that the `$` at `o` opened, with the opening mark
  if it is the first. It ends at the closing mark, which is not part of the span,
  or at the `{` of an expression. -/
  | segment {quote? : Option Quote} {opened : Location} {o : Nat} {q : Quote}
      {mark raw g : List Char} :
      Boundary text t.start (.literal quote? opened) →
      OpenedAt text t.start (.literal quote? opened) o → text.toList[o + 1]? = some q.char →
      mark = (if t.start = o + 1 then [q.char] else []) → t.kind = .string →
      Segment.Units q raw → t.lexeme.toList = Segment.meaning raw →
      (g = [] ∧ text.toList[t.start + (mark ++ raw).length]? = some q.char ∨
        ∃ h, g = '\x7b' :: h ∧ Hollow h) →
      Accounted text t (mark ++ raw ++ g)
  /-- A closing mark has no gap. -/
  | finish {q : Quote} {opened : Location} : Boundary text t.start (.literal (some q) opened) →
      t.kind = .interpolationEnd → Accounted text t t.lexeme.toList

section

variable {text filename : String} {mode : Mode} {mark : Mark}

theorem Spells.written {w : List Char} {l : Lexeme} {t : Token} (h : Spells w l)
    (hkind : t.kind = l.kind) (hlexeme : t.lexeme.toList = l.text) : t.Written w := by
  have hverbatim : ∀ kind, kind ≠ .string → l = ⟨kind, w⟩ → t.Written w := by
    intro kind hne hl
    obtain rfl : w = t.lexeme.toList := by rw [hlexeme, hl]
    refine .verbatim ?_
    rw [hkind, hl]
    exact hne
  cases h with
  | string q hb => exact .string q hkind hb hlexeme
  | _ => exact hverbatim _ (by decide) rfl

/-- Where literal text begins in a text, and what stands before it. -/
theorem Boundary.exists_entry {n : Nat} {quote? : Option Quote} {opened : Location} {q : Quote}
    {entered rest : List Char} (h : Boundary text n (.literal quote? opened))
    (hentry : Entry quote? entered q) (htext : text.toList.drop n = entered ++ rest) :
    ∃ o, OpenedAt text n (.literal quote? opened) o ∧ text.toList[o + 1]? = some q.char ∧
      entered = if n = o + 1 then [q.char] else [] := by
  obtain ⟨o, ho⟩ := h.exists_openedAt (by simp)
  refine ⟨o, ho, ?_⟩
  cases hentry with
  | first =>
    have hn : n = o + 1 := ho.unread_iff.mp rfl
    refine ⟨?_, by simp [hn]⟩
    rw [← hn, ← List.head?_drop, htext]
    rfl
  | later =>
    have hn : n ≠ o + 1 := by simpa [Mode.quote?] using ho.unread_iff
    exact ⟨ho.mark q rfl, by simp [hn]⟩

/-- A step that makes a token covers what the token is written as, and the gap
begins where the step says. -/
theorem Mode.Takes.accounted {here : Location} {s : Step} {gap r : List Char} {l : Lexeme}
    {t : Token} (htakes : mode.Takes here s (gap ++ r).head?)
    (hboundary : Boundary text t.start mode)
    (htext : text.toList.drop t.start = s.covered ++ (gap ++ r)) (hgap : s.next.Gap gap)
    (hl : s.lexeme? = some l) (hkind : t.kind = l.kind) (hlexeme : t.lexeme.toList = l.text) :
    Accounted text t (s.covered ++ gap) := by
  generalize hnext : (gap ++ r).head? = next? at htakes
  cases htakes with
  | token hspells =>
    cases hl
    cases hgap
    rw [List.append_nil]
    refine .code hboundary ?_ (hspells.written hkind hlexeme)
    intro hstart
    have hplain := hspells.not_bracket
    rw [← hkind, hstart] at hplain
    cases hplain
  | inner hspells =>
    cases hl
    exact .inner hboundary (hspells.written hkind hlexeme) hgap.hollow
  | start =>
    cases hl
    simp only at hlexeme ⊢
    rw [← hlexeme]
    refine .start hboundary hkind ?_
    cases hgap with
    | nil => exact .inl rfl
    | @literal _ q _ _ _ hentry hg =>
      cases hentry with
      | first => exact .inr ⟨q, _, rfl, hg⟩
  | nested =>
    cases hl
    simp only at hlexeme ⊢
    rw [← hlexeme]
    exact .inner hboundary (.verbatim (by simp [hkind])) hgap.hollow
  | close => cases hl
  | @text _ q _ _ entered raw hentry hunits =>
    cases hl
    obtain ⟨o, ho, hmark, hentered⟩ := hboundary.exists_entry hentry (by simpa using htext)
    -- the closing mark comes next, so no brace does
    have hnil : gap = [] := by
      cases hgap with
      | nil => rfl
      | literal hentry' =>
        cases hentry' with
        | later => exact absurd (Option.some.inj hnext).symm q.char_ne.2.1
    subst hnil
    refine .segment hboundary ho hmark hentered hkind hunits ?_ (.inl ⟨rfl, ?_⟩)
    · rw [hlexeme, Segment.decode_undouble]
    · rw [← List.head?_drop, ← List.drop_drop, htext, List.drop_left]
      exact hnext
  | @brace _ q _ _ entered raw _ hentry hunits =>
    have hraw : ¬ raw.isEmpty = true := by
      intro hempty
      simp [hempty] at hl
    obtain ⟨o, ho, hmark, hentered⟩ := hboundary.exists_entry hentry (by simpa using htext)
    rw [if_neg hraw] at hl
    cases hl
    have hspan : entered ++ (raw ++ ['\x7b']) ++ gap = entered ++ raw ++ '\x7b' :: gap := by simp
    rw [hspan]
    refine .segment hboundary ho hmark hentered hkind hunits ?_ (.inr ⟨gap, rfl, hgap.hollow⟩)
    rw [hlexeme, Segment.decode_undouble]
  | finish =>
    cases hl
    cases hgap
    simp only [List.append_nil] at hlexeme ⊢
    rw [← hlexeme]
    exact .finish hboundary hkind

/-- The spans of the tokens on a path to the end of a text. -/
theorem Path.accounted {ms : List Move} {mode' : Mode} (h : Path mode mark ms mode' none)
    (htext : text.toList.drop mark.offset = coveredText ms)
    (hboundary : ∀ m ∈ ms, Boundary text m.mark.offset m.mode) :
    List.Forall₂ (fun t span => Accounted text t span.toList)
      (ms.filterMap (Move.token? filename))
      (rawSpans text (ms.filterMap (Move.token? filename))) := by
  induction ms generalizing mode mark with
  | nil => exact .nil
  | cons m ms ih =>
    cases h with
    | @cons _ _ _ s _ _ htakes hrest =>
      have htail := ih hrest (drop_of_coveredText_cons htext)
        (fun m hm => hboundary m (List.mem_cons_of_mem _ hm))
      cases ht : Move.token? filename ⟨mark, mode, s⟩ with
      | none =>
        rw [List.filterMap_cons_none ht]
        exact htail
      | some t =>
        rw [List.filterMap_cons_some ht, Path.rawSpans_cons (.cons htakes hrest) ht htext]
        refine .cons ?_ htail
        have hgap := hrest.gap
        rw [Option.or_none, ← coveredText_takeWhile_append_dropWhile Move.isSilent ms] at htakes
        rw [coveredText_cons, ← coveredText_takeWhile_append_dropWhile Move.isSilent ms] at htext
        have hhere : Boundary text mark.offset mode := hboundary ⟨mark, mode, s⟩ List.mem_cons_self
        obtain ⟨l, hl, rfl⟩ := Move.token?_eq_some_iff.mp ht
        rw [String.toList_ofList]
        exact htakes.accounted hhere htext hgap hl rfl String.toList_ofList

end

/-! ## Every character is accounted for -/

/-- **Every character is accounted for**: the span of every token of a text is
what the token is written as, and a gap of structural marks. -/
theorem lex_accounted {text filename : String} {ts : List Token}
    (h : lex text filename = .ok ts) :
    List.Forall₂ (fun t span => Accounted text t span.toList) ts (rawSpans text ts) := by
  obtain ⟨ms, hpath, htext, rfl⟩ := lex_eq_ok_iff.mp h
  exact hpath.accounted (by simpa [Mark.start] using htext)
    (hpath.boundary_of_mem (r := []) (by simpa using htext))

/-- An escape and a doubled brace before an empty expression, and three `}` of
which the last ends an expression. -/
theorem lex_accounted_hollow : ∃ ts,
    lex "$'\\n\x7b\x7b\x7b\x7d\x7bx\x7d\x7d\x7db'" "a.mcl" = .ok ts ∧
    rawSpans "$'\\n\x7b\x7b\x7b\x7d\x7bx\x7d\x7d\x7db'" ts =
      ["$", "'\\n\x7b\x7b\x7b\x7d\x7b", "x", "\x7d", "\x7d\x7d", "b", "'"] ∧
    List.Forall₂ (fun t span =>
        Accounted "$'\\n\x7b\x7b\x7b\x7d\x7bx\x7d\x7d\x7db'" t span.toList)
      ts (rawSpans "$'\\n\x7b\x7b\x7b\x7d\x7bx\x7d\x7d\x7db'" ts) := by
  have h : lex "$'\\n\x7b\x7b\x7b\x7d\x7bx\x7d\x7d\x7db'" "a.mcl" = .ok
      [⟨"$", .interpolationStart, ⟨1, 1⟩, 0, "a.mcl"⟩, ⟨"\n\x7b", .string, ⟨1, 2⟩, 1, "a.mcl"⟩,
        ⟨"x", .identifier, ⟨1, 10⟩, 9, "a.mcl"⟩, ⟨"\x7d", .punctuation, ⟨1, 11⟩, 10, "a.mcl"⟩,
        ⟨"\x7d", .punctuation, ⟨1, 12⟩, 11, "a.mcl"⟩, ⟨"b", .string, ⟨1, 14⟩, 13, "a.mcl"⟩,
        ⟨"'", .interpolationEnd, ⟨1, 15⟩, 14, "a.mcl"⟩] := by
    cbv
  exact ⟨_, h, by simp [rawSpans_cons_cons, rawSpans_singleton], lex_accounted h⟩

end ScriptLexer
