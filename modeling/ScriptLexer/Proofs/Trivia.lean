/-
ScriptLexer.Proofs.Trivia — what a parser does not see.

Whitespace and comments only keep tokens apart. If any of them is replaced by
other whitespace, the script still lexes, and the tokens that a parser sees are
the same, in kind and lexeme (`lex_replace`). Places differ, and so may the
number of blank tokens, since the new whitespace runs together with what
whitespace stands next to it.

The proof cuts the path at the token. Before it, whitespace at the end is taken
along, and what remains may be followed by any blank as it was by the token
(`Path.exists_blank_end`). Behind it the same steps are taken from another
mark, with another location remembered (`Path.alike`), once the new whitespace
has taken in the whitespace there (`Path.blank`).
-/
import Mathlib
import ScriptLexer.Proofs.Lossless
import ScriptLexer.Proofs.Template

namespace ScriptLexer

/-! ## Modes that differ in a place -/

/-- Two modes that read alike: they differ in the remembered location only. -/
inductive Mode.Alike : Mode → Mode → Prop where
  | code : Alike .code .code
  | literal (quote? : Option Quote) (opened opened' : Location) :
      Alike (.literal quote? opened) (.literal quote? opened')
  | expression (q : Quote) (opened opened' : Location) :
      Alike (.expression q opened) (.expression q opened')

section

variable {mode mode' final : Mode} {mark : Mark} {ms : List Move} {next? : Option Char}

theorem Mode.Alike.refl (mode : Mode) : mode.Alike mode := by
  cases mode with
  | code => exact .code
  | literal quote? opened => exact .literal quote? opened opened
  | expression q opened => exact .expression q opened opened

theorem Mode.Takes.alike {here : Location} {s : Step} (h : mode.Takes here s next?)
    (halike : mode.Alike mode') (here' : Location) :
    ∃ next, s.next.Alike next ∧ mode'.Takes here' { s with next } next? := by
  cases h with
  | token hspells happart =>
    cases halike
    exact ⟨_, .code, .token hspells happart⟩
  | inner hspells happart hbrace =>
    cases halike
    exact ⟨_, .expression _ _ _, .inner hspells happart hbrace⟩
  | start =>
    cases halike
    exact ⟨_, .literal _ _ _, .start⟩
  | nested =>
    cases halike
    exact ⟨_, .expression _ _ _, .nested⟩
  | close hsingle =>
    cases halike
    exact ⟨_, .literal _ _ _, .close hsingle⟩
  | text hentry hunits hne =>
    cases halike
    exact ⟨_, .literal _ _ _, .text hentry hunits hne⟩
  | brace hentry hunits hsingle =>
    cases halike
    exact ⟨_, .expression _ _ _, .brace hentry hunits hsingle⟩
  | finish =>
    cases halike
    exact ⟨_, .code, .finish⟩

/-- A path may be taken from any mark, whatever location the mode remembers. -/
theorem Path.alike (h : Path mode mark ms final next?) (halike : mode.Alike mode')
    (mark' : Mark) :
    ∃ ms' final', Path mode' mark' ms' final' next? ∧ final.Alike final' ∧
      coveredText ms' = coveredText ms ∧ lexemesOf ms' = lexemesOf ms := by
  induction h generalizing mode' mark' with
  | nil => exact ⟨[], mode', .nil, halike, rfl, rfl⟩
  | @cons mode _ mark s ms next? htakes _ ih =>
    obtain ⟨next, hnext, htakes'⟩ := htakes.alike halike mark'.location
    obtain ⟨ms', final', hpath, hfinal, hcovered, hlexemes⟩ := ih hnext (mark'.advance s.covered)
    rw [← hcovered] at htakes'
    exact ⟨_, final', .cons htakes' hpath, hfinal, by simp [hcovered], by simp [hlexemes]⟩

/-- Back to ordinary code the lexer gets from any mark. -/
theorem Passes.of_path {mark' : Mark} (h : Path mode mark ms .code next?) :
    Passes mode mark' (coveredText ms) (lexemesOf ms) .code next? := by
  obtain ⟨ms', final, hpath, hfinal, hcovered, hlexemes⟩ := h.alike (.refl mode) mark'
  cases hfinal
  exact ⟨ms', hpath, hcovered, hlexemes⟩

end

/-! ## Blanks -/

/-- Text of whitespace characters. -/
def Blank (w : List Char) : Prop :=
  ∀ c ∈ w, isSpace c = true

theorem Blank.append {v w : List Char} (hv : Blank v) (hw : Blank w) : Blank (v ++ w) :=
  List.forall_mem_append.mpr ⟨hv, hw⟩

/-- A blank is none of the characters that go on with a token or that double a
brace. -/
theorem isSpace_separates {c : Char} (h : isSpace c = true) :
    isWordPart c = false ∧ c.isDigit = false ∧ c ∉ ['.', '=', '>', '/', '*', '\x7b', '\x7d'] :=
  of_contains (p := fun d => isWordPart d = false ∧ d.isDigit = false ∧
    d ∉ ['.', '=', '>', '/', '*', '\x7b', '\x7d']) (by decide) h

/-- Only whitespace goes on with a blank, where another character ends the
token. -/
theorem Lexeme.not_fuses_blank {l : Lexeme} {c d : Char} (hkind : l.kind ≠ .whitespace)
    (hc : ¬ l.Fuses c) (hd : isSpace d = true) : ¬ l.Fuses d := by
  obtain ⟨hword, hdigit, hmarks⟩ := isSpace_separates hd
  simp only [List.mem_cons, List.not_mem_nil, or_false, not_or] at hmarks
  simp only [Fuses, not_or] at hc ⊢
  refine ⟨by simp [hkind], by simp [hword], by simp [hdigit, hmarks], by simp [hmarks], hc.2.2.2.2⟩

theorem Spells.eq_whitespace {w : List Char} {l : Lexeme} (h : Spells w l)
    (hkind : l.kind = .whitespace) : l = ⟨.whitespace, w⟩ ∧ Blank w := by
  cases h with
  | whitespace _ hw => exact ⟨rfl, hw⟩
  | _ => cases hkind

/-- What begins with a blank is whitespace. -/
theorem Spells.kind_of_isSpace {c : Char} {cs : List Char} {l : Lexeme} (h : Spells (c :: cs) l)
    (hc : isSpace c = true) : l.kind = .whitespace := by
  have hread := Recognizer.code_append (r := []) h (by simp)
  rw [List.append_nil, Recognizer.code_of_initial? (initial?_of_isSpace hc)] at hread
  simp only [Recognizer.ofInitial, Recognizer.whitespace, List.takeWhile_cons_of_pos hc] at hread
  rw [← (Reading.accepted.inj hread).1]

/-- Whitespace and comments are written as they are. They begin with no brace. -/
theorem Spells.text_of_isTrivia {w : List Char} {l : Lexeme} (h : Spells w l)
    (htrivia : l.kind.isTrivia = true) : l.text = w ∧ w.head? ≠ some '\x7d' := by
  cases h with
  | whitespace _ hw =>
    exact ⟨rfl, fun hhead => absurd (hw _ (List.mem_of_head? hhead)) (by decide)⟩
  | line | openLine | block | openBlock => exact ⟨rfl, by simp⟩
  | _ => cases htrivia

/-! ## Whitespace in front of code -/

/-- The lexemes that a parser sees. -/
def significantLexemes (ls : List Lexeme) : List Lexeme :=
  ls.filter fun l => !l.kind.isTrivia

@[simp] theorem significantLexemes_append (ls ls' : List Lexeme) :
    significantLexemes (ls ++ ls') = significantLexemes ls ++ significantLexemes ls' :=
  List.filter_append ..

section

variable {mode : Mode} {mark : Mark} {here : Location} {s : Step} {next? : Option Char}

/-- A token is read in the same way in every mode that reads code. -/
theorem Mode.ReadsCode.takes (h : mode.ReadsCode) {w : List Char} {l : Lexeme}
    (hspells : Spells w l) (happart : ∀ c ∈ next?, ¬ l.Fuses c)
    (hbrace : w = ['\x7d'] → next? = some '\x7d') :
    mode.Takes here ⟨some l, w, mode⟩ next? := by
  cases h with
  | code => exact .token hspells happart
  | expression q opened => exact .inner hspells happart hbrace

/-- Whitespace is read up to what is no blank. -/
theorem Mode.ReadsCode.takes_blank (h : mode.ReadsCode) {w : List Char} (hne : w ≠ [])
    (hw : Blank w) (hnext : ∀ c ∈ next?, ¬ isSpace c = true) :
    mode.Takes here ⟨some ⟨.whitespace, w⟩, w, mode⟩ next? := by
  refine h.takes (.whitespace hne hw) (by simpa using hnext) ?_
  intro hbrace
  rw [hbrace] at hw
  exact absurd (hw '\x7d' (by simp)) (by decide)

/-- A step through code that begins with a blank reads whitespace. -/
theorem Mode.Takes.of_isSpace (h : mode.Takes here s next?) (hreads : mode.ReadsCode)
    (hhead : ∃ c ∈ s.covered.head?, isSpace c = true) :
    s = ⟨some ⟨.whitespace, s.covered⟩, s.covered, mode⟩ ∧ Blank s.covered ∧
      ∀ c ∈ next?, ¬ isSpace c = true := by
  obtain ⟨c, hc, hspace⟩ := hhead
  have hspells : ∀ {w : List Char} {l : Lexeme}, Spells w l → w.head? = some c →
      l = ⟨.whitespace, w⟩ ∧ Blank w := by
    intro w l h hw
    obtain ⟨cs, rfl⟩ := List.head?_eq_some_iff.mp hw
    exact h.eq_whitespace (h.kind_of_isSpace hspace)
  cases h with
  | token h happart =>
    obtain ⟨rfl, hblank⟩ := hspells h hc
    exact ⟨rfl, hblank, by simpa using happart⟩
  | inner h happart =>
    obtain ⟨rfl, hblank⟩ := hspells h hc
    exact ⟨rfl, hblank, by simpa using happart⟩
  | start | nested | close =>
    cases hc
    exact absurd hspace (by decide)
  | text | brace | finish => cases hreads

/-- Whitespace in front of code is read with the whitespace that the code begins
with, and a parser does not see it. -/
theorem Path.blank {ms : List Move} (hpath : Path mode mark ms .code none)
    (hreads : mode.ReadsCode) {w : List Char} (hne : w ≠ []) (hw : Blank w) (mark' : Mark) :
    ∃ ls, Passes mode mark' (w ++ coveredText ms) ls .code none ∧
      significantLexemes ls = significantLexemes (lexemesOf ms) := by
  by_cases hhead : ∃ c ∈ (coveredText ms).head?, isSpace c = true
  · -- the first move reads whitespace, and takes in what is new
    cases hpath with
    | nil => simp at hhead
    | @cons _ _ _ s ms _ htakes hrest =>
      obtain ⟨d, ds, hcovered⟩ := List.exists_cons_of_ne_nil htakes.covered_ne_nil
      obtain ⟨hs, hblank, hnext⟩ := htakes.of_isSpace hreads (by simpa [hcovered] using hhead)
      generalize s.covered = v at hs hblank hcovered hrest
      subst hs
      have hmerged : mode.Takes mark'.location ⟨some ⟨.whitespace, w ++ v⟩, w ++ v, mode⟩
          ((coveredText ms).head?.or none) :=
        hreads.takes_blank (by simp [hne]) (hw.append hblank) hnext
      refine ⟨_, by simpa using (Passes.step hmerged).append (.of_path hrest), ?_⟩
      simp [significantLexemes, TokenKind.isTrivia]
  · have hnext : ∀ c ∈ (coveredText ms).head?.or none, ¬ isSpace c = true := by
      intro c hc hspace
      rw [Option.or_none] at hc
      exact hhead ⟨c, hc, hspace⟩
    have htakes : mode.Takes mark'.location ⟨some ⟨.whitespace, w⟩, w, mode⟩ _ :=
      hreads.takes_blank hne hw hnext
    refine ⟨_, (Passes.step htakes).append (.of_path hpath), ?_⟩
    simp [significantLexemes, TokenKind.isTrivia]

/-! ## Whitespace behind code -/

/-- Whitespace and comments are read in code. -/
theorem Mode.Takes.of_isTrivia {l : Lexeme} (h : mode.Takes here s next?)
    (hl : s.lexeme? = some l) (htrivia : l.kind.isTrivia = true) :
    mode.ReadsCode ∧ s = ⟨some l, l.text, mode⟩ ∧ Spells l.text l := by
  cases h with
  | token hspells =>
    cases hl
    rw [(hspells.text_of_isTrivia htrivia).1]
    exact ⟨.code, rfl, hspells⟩
  | inner hspells =>
    cases hl
    rw [(hspells.text_of_isTrivia htrivia).1]
    exact ⟨.expression _ _, rfl, hspells⟩
  | start | nested | text | finish =>
    cases hl
    cases htrivia
  | close => cases hl
  | brace =>
    split at hl
    · cases hl
    · cases hl
      cases htrivia

/-- A step into code that makes no whitespace is taken before any blank, if
another token or the end of an expression does not come next. -/
theorem Mode.Takes.before_blank {c d : Char} (h : mode.Takes here s (some c))
    (hreads : s.next.ReadsCode) (hc : c ≠ '\x7d')
    (hplain : ∀ l ∈ s.lexeme?, l.kind ≠ .whitespace) (hd : isSpace d = true) :
    mode.Takes here s (some d) := by
  refine h.before_other hreads (by simpa using hc) ?_ ?_
  · intro hopen
    cases hopen
    exact absurd hd (by decide)
  · intro l hl e he
    cases he
    exact Lexeme.not_fuses_blank (hplain l hl) (h.apart l hl c rfl) hd

/-- A path into code ends with whitespace `v`, of which there may be none, and
may go on with any whitespace behind that. -/
theorem Path.exists_blank_end {mode' : Mode} {ms : List Move} {c : Char}
    (h : Path mode mark ms mode' (some c)) (hreads : mode'.ReadsCode) (hc : c ≠ '\x7d') :
    ∃ ms' v, coveredText ms = coveredText ms' ++ v ∧ Blank v ∧
      significantLexemes (lexemesOf ms) = significantLexemes (lexemesOf ms') ∧
      ∀ w, w ≠ [] → Blank w → Path mode mark ms' mode' (v ++ w).head? := by
  rcases List.eq_nil_or_concat ms with rfl | ⟨ms, m, rfl⟩
  · cases h
    exact ⟨[], [], rfl, by simp [Blank], rfl, fun _ _ _ => .nil⟩
  rw [List.concat_eq_append] at h ⊢
  obtain ⟨first, -, htakes, rfl⟩ := h.of_concat
  by_cases hlast : ∃ l ∈ m.step.lexeme?, l.kind = .whitespace
  · -- the last move reads whitespace, which is `v`
    obtain ⟨l, hl, hkind⟩ := hlast
    have htrivia : l.kind.isTrivia = true := by rw [hkind]; rfl
    obtain ⟨-, hs, hspells⟩ := htakes.of_isTrivia hl htrivia
    obtain ⟨d, ds, hd⟩ := List.exists_cons_of_ne_nil hspells.ne_nil
    refine ⟨ms, l.text, by simp [hs], (hspells.eq_whitespace hkind).2, ?_, ?_⟩
    · simp [hs, significantLexemes, htrivia]
    · intro w _ _
      rw [hs] at first ⊢
      simpa [hd] using first
  · refine ⟨ms ++ [m], [], by simp, by simp [Blank], rfl, ?_⟩
    intro w hne hw
    obtain ⟨d, ds, rfl⟩ := List.exists_cons_of_ne_nil hne
    refine h.of_getLast? ?_
    intro m' hm'
    obtain rfl : m = m' := by simpa using hm'
    refine htakes.before_blank hreads hc ?_ (hw d (by simp))
    exact fun l hl hkind => hlast ⟨l, hl, hkind⟩

end

/-! ## Replacing trivia -/

/-- The text with `w` written for the lexeme of the token `t`. -/
def replaceToken (text : String) (t : Token) (w : String) : String :=
  String.ofList (text.toList.take t.start ++ (w.toList ++
    text.toList.drop (t.start + t.lexeme.length)))

theorem map_pair_significant (filename : String) (ms : List Move) :
    (Token.significant (ms.filterMap (Move.token? filename))).map Token.pair =
      (significantLexemes (lexemesOf ms)).map Lexeme.pair := by
  have hpairs := congrArg (List.filter fun p => !p.1.isTrivia) (map_pair_tokens filename ms)
  rw [List.filter_map, List.filter_map] at hpairs
  exact hpairs

/-- Any whitespace may stand for a move that reads whitespace or a comment. -/
theorem Path.replace {before after : List Move} {m : Move} {l : Lexeme}
    (h : Path .code .start (before ++ m :: after) .code none) (hl : m.step.lexeme? = some l)
    (htrivia : l.kind.isTrivia = true) {w : List Char} (hne : w ≠ []) (hw : Blank w) :
    ∃ ls, Passes .code .start (coveredText before ++ (w ++ coveredText after)) ls .code none ∧
      significantLexemes ls = significantLexemes (lexemesOf (before ++ m :: after)) := by
  obtain ⟨hbefore, -, htakes, hafter⟩ := h.of_append_cons
  obtain ⟨hreads, hs, hspells⟩ := htakes.of_isTrivia hl htrivia
  have hbrace := (hspells.text_of_isTrivia htrivia).2
  obtain ⟨c, cs, hc⟩ := List.exists_cons_of_ne_nil hspells.ne_nil
  rw [hs] at hafter hbefore
  simp only [hc, List.head?_cons] at hbefore
  -- the whitespace before the move goes with the new whitespace
  obtain ⟨ms, v, hms, hv, hsignificant, hfirst⟩ :=
    hbefore.exists_blank_end hreads (by simpa [hc] using hbrace)
  obtain ⟨d, ds, hd⟩ := List.exists_cons_of_ne_nil (l := v ++ w) (by simp [hne])
  obtain ⟨ls, hsecond, hls⟩ := hafter.blank hreads (by simp [hne]) (hv.append hw)
    (Mark.start.advance (coveredText ms))
  have hpath : Path .code .start ms m.mode ((v ++ w ++ coveredText after).head?.or none) := by
    simpa [hd] using hfirst w hne hw
  have hpasses := Passes.append ⟨ms, hpath, rfl, rfl⟩ hsecond
  refine ⟨_, by simpa [hms] using hpasses, ?_⟩
  rw [lexemesOf_append, significantLexemes_append, significantLexemes_append, hsignificant, hls]
  simp [hl, significantLexemes, htrivia]

/-- **Trivia is meaningless**: with whitespace written for a comment or for other
whitespace, in ordinary code or in an expression, a text lexes to the same
tokens that a parser sees. -/
theorem lex_replace {text filename w : String} {ts : List Token} {t : Token}
    (h : lex text filename = .ok ts) (ht : t ∈ ts) (htrivia : t.isTrivia = true) (hne : w ≠ "")
    (hw : ∀ c ∈ w.toList, isSpace c = true) :
    ∃ ts', lex (replaceToken text t w) filename = .ok ts' ∧
      (Token.significant ts').map Token.pair = (Token.significant ts).map Token.pair := by
  obtain ⟨ms, hpath, htext, rfl⟩ := lex_eq_ok_iff.mp h
  obtain ⟨m, hm, hmt⟩ := List.mem_filterMap.mp ht
  obtain ⟨l, hl, rfl⟩ := Move.token?_eq_some_iff.mp hmt
  obtain ⟨before, after, rfl⟩ := List.append_of_mem hm
  obtain ⟨ls, ⟨ms', hpath', hcovered, rfl⟩, hls⟩ :=
    hpath.replace hl htrivia (w := w.toList) (by simpa using hne) hw
  refine ⟨_, lex_eq_ok_iff.mpr ⟨ms', hpath', ?_, rfl⟩, ?_⟩
  · obtain ⟨-, hmark, htakes, -⟩ := hpath.of_append_cons
    obtain ⟨-, hs, -⟩ := htakes.of_isTrivia hl htrivia
    have hoffset : m.mark.offset = (coveredText before).length := by simp [hmark, Mark.start]
    rw [coveredText_append, coveredText_cons, hs] at htext
    simp [replaceToken, hcovered, htext, hoffset]
  · rw [map_pair_significant, map_pair_significant, hls]

/-- A comment in an expression keeps a number from the `.` behind it. The blank
in its place takes in the one that follows. -/
theorem lex_replace_merged : ∃ ts t,
    lex "$'\x7b1/*\x7d*/ .5\x7d'" "a.mcl" = .ok ts ∧ t ∈ ts ∧ t.kind = .comment ∧
    replaceToken "$'\x7b1/*\x7d*/ .5\x7d'" t "\n" = "$'\x7b1\n .5\x7d'" ∧
    ∃ ts', lex (replaceToken "$'\x7b1/*\x7d*/ .5\x7d'" t "\n") "a.mcl" = .ok ts' ∧
      (Token.significant ts').map Token.pair = (Token.significant ts).map Token.pair := by
  have h : lex "$'\x7b1/*\x7d*/ .5\x7d'" "a.mcl" = .ok
      [⟨"$", .interpolationStart, ⟨1, 1⟩, 0, "a.mcl"⟩, ⟨"1", .number, ⟨1, 4⟩, 3, "a.mcl"⟩,
        ⟨"/*\x7d*/", .comment, ⟨1, 5⟩, 4, "a.mcl"⟩, ⟨" ", .whitespace, ⟨1, 10⟩, 9, "a.mcl"⟩,
        ⟨".", .punctuation, ⟨1, 11⟩, 10, "a.mcl"⟩, ⟨"5", .number, ⟨1, 12⟩, 11, "a.mcl"⟩,
        ⟨"'", .interpolationEnd, ⟨1, 14⟩, 13, "a.mcl"⟩] := by
    cbv
  have hblank : ∀ c ∈ "\n".toList, isSpace c = true := by
    simp [isSpace]
  exact ⟨_, ⟨"/*\x7d*/", .comment, ⟨1, 5⟩, 4, "a.mcl"⟩, h, by simp, rfl, by cbv,
    lex_replace h (by simp) rfl (by decide) hblank⟩

end ScriptLexer
