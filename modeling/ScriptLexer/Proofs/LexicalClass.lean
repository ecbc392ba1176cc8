/-
ScriptLexer.Proofs.LexicalClass — what each kind of token looks like, and where
it ends.

`Classed` says of every kind which characters make a token of it, and which
character may come next. A token ends as late as it can: no class is left before
the first character outside of it, and what ends a comment is the first thing that
can end it. `lex_classes` says that every token of a text is so. Strings are left
out, since their lexeme is a meaning and not a stretch of the text.

That a token ends as late as it can is also said of the grammar as a whole: no
longer text at the same place is a token (`Recognizer.Reads.longest`). A shorter
token that did not fuse with the next character would have been read in its stead.
-/
import Mathlib
import ScriptLexer.Proofs.Interpolation

namespace ScriptLexer

open Recognizer (Reads)

/-! ## Classes -/

/-- A `*/` stands at `i` in a block comment, behind the `/*` that opens it. -/
def CloseAt (w : List Char) (i : Nat) : Prop :=
  2 ≤ i ∧ ['*', '/'] <+: w.drop i

/-- The characters of a token, by its kind, and the character after them. -/
inductive Classed : TokenKind → List Char → Option Char → Prop where
  | whitespace {w : List Char} {next? : Option Char} :
      w ≠ [] → (∀ c ∈ w, isSpace c = true) → (∀ c ∈ next?, ¬ isSpace c = true) →
      Classed .whitespace w next?
  | identifier {c : Char} {cs : List Char} {next? : Option Char} :
      isWordStart c = true → (∀ d ∈ cs, isWordPart d = true) →
      (∀ d ∈ next?, ¬ isWordPart d = true) → Classed .identifier (c :: cs) next?
  /-- A whole number may not be followed by a point, which it would take in. -/
  | number {c : Char} {cs : List Char} {next? : Option Char} :
      c.isDigit = true → (∀ d ∈ cs, d.isDigit = true ∨ d = '.') → cs.count '.' ≤ 1 →
      (∀ d ∈ next?, ¬ d.isDigit = true) → ('.' ∉ cs → next? ≠ some '.') →
      Classed .number (c :: cs) next?
  /-- An operator of one character ends where a longer operator or a comment does
  not begin. -/
  | operator {w : List Char} {next? : Option Char} :
      ((∃ c, isOperator c = true ∧ (w = [c] ∨ w = [c, '='])) ∨ w = ['=', '>']) →
      (w.length = 1 → next? ≠ some '=') → (w = ['='] → next? ≠ some '>') →
      (w = ['/'] → next? ≠ some '/' ∧ next? ≠ some '*') → Classed .operator w next?
  | punctuation {c : Char} {next? : Option Char} :
      isPunctuation c = true → Classed .punctuation [c] next?
  /-- A newline ends a line comment, or else the end of the text. -/
  | line {w : List Char} {next? : Option Char} :
      ['/', '/'] <+: w → '\n' ∉ w.dropLast → ('\n' ∉ w → next? = none) → Classed .comment w next?
  /-- The first `*/` ends a block comment, or else the end of the text. -/
  | block {w : List Char} {next? : Option Char} :
      ['/', '*'] <+: w → (∀ i, CloseAt w i → i + 2 = w.length) →
      ((∀ i, ¬ CloseAt w i) → next? = none) → Classed .comment w next?
  | dollar {next? : Option Char} : Classed .interpolationStart ['$'] next?
  | mark (q : Quote) {next? : Option Char} : Classed .interpolationEnd [q.char] next?

theorem Classed.kind_ne_nil {kind : TokenKind} {w : List Char} {next? : Option Char}
    (h : Classed kind w next?) : kind ≠ .nil := by
  cases h <;> simp

/-! ## Comments -/

/-- A `*/` in a text ends it, if there is none in it but for its last character. -/
theorem add_two_eq_of_close {cs : List Char} (h : ¬ ['*', '/'] <:+: cs ++ ['*']) {i : Nat}
    (hi : ['*', '/'] <+: (cs ++ ['*', '/']).drop i) : i + 2 = (cs ++ ['*', '/']).length := by
  by_contra hne
  have hlength := hi.length_le
  simp only [List.length_drop, List.length_append, List.length_cons, List.length_nil]
    at hlength hne
  -- an earlier one lies in what comes before the last character
  have hcut : (cs ++ ['*', '/']).drop i = (cs ++ ['*']).drop i ++ ['/'] := by
    rw [← List.drop_append_of_le_length (by simp; omega)]
    simp
  rw [hcut] at hi
  have hearlier : ['*', '/'] <+: (cs ++ ['*']).drop i :=
    List.prefix_of_prefix_length_le hi (List.prefix_append _ _) (by simp; omega)
  exact h (hearlier.isInfix.trans (List.drop_suffix i _).isInfix)

theorem classed_line {cs : List Char} {next? : Option Char} (h : '\n' ∉ cs) :
    Classed .comment ('/' :: '/' :: (cs ++ ['\n'])) next? := by
  have hlast : ('/' :: '/' :: (cs ++ ['\n'])).dropLast = '/' :: '/' :: cs := by
    rw [← List.cons_append, ← List.cons_append, List.dropLast_concat]
  refine .line (by simp) ?_ ?_
  · rw [hlast]
    simp [h]
  · intro hmem
    simp at hmem

theorem classed_openLine {cs : List Char} (h : '\n' ∉ cs) :
    Classed .comment ('/' :: '/' :: cs) none := by
  refine .line (by simp) ?_ (fun _ => rfl)
  intro hmem
  have hmem' := List.mem_of_mem_dropLast hmem
  simp [h] at hmem'

theorem classed_block {cs : List Char} {next? : Option Char}
    (h : ¬ ['*', '/'] <:+: cs ++ ['*']) :
    Classed .comment ('/' :: '*' :: (cs ++ ['*', '/'])) next? := by
  refine .block (by simp) ?_ ?_
  · rintro i ⟨hi, hclose⟩
    obtain ⟨j, rfl⟩ := Nat.exists_eq_add_of_le' hi
    have hend := add_two_eq_of_close h (i := j) hclose
    simp only [List.length_cons]
    omega
  · intro hnone
    refine absurd ⟨?_, ?_⟩ (hnone (cs.length + 2))
    · omega
    · simp

theorem classed_openBlock {cs : List Char} (h : ¬ ['*', '/'] <:+: cs) :
    Classed .comment ('/' :: '*' :: cs) none := by
  refine .block (by simp) ?_ (fun _ => rfl)
  rintro i ⟨hi, hclose⟩
  obtain ⟨j, rfl⟩ := Nat.exists_eq_add_of_le' hi
  exact absurd (hclose.isInfix.trans (List.drop_suffix j cs).isInfix) h

/-! ## Tokens of ordinary code -/

namespace Recognizer.Reads

variable {cs w : List Char} {l : Lexeme}

/-- No token at the same place is longer: it would go on with a character that the
token does not fuse with. -/
theorem longest (h : Reads cs w l) {w' : List Char} {l' : Lexeme} (h' : Spells w' l')
    (hbegins : w' <+: cs) : w'.length ≤ w.length := by
  by_contra hlonger
  obtain ⟨hspells, r, rfl, happart⟩ := h
  obtain ⟨r', rfl⟩ :=
    List.prefix_of_prefix_length_le (List.prefix_append w r) hbegins (by omega)
  have hhead : r'.head? = r.head? := by
    obtain ⟨r'', hr⟩ := hbegins
    rw [List.append_assoc] at hr
    rw [← List.append_cancel_left hr]
    cases r' with
    | nil => simp at hlonger
    | cons c cs => rfl
  have hread := code_append hspells (r := r') (by rwa [hhead])
  have hread' := code_append h' (r := []) (by simp)
  rw [List.append_nil, hread] at hread'
  have hlength := congrArg List.length (Reading.accepted.inj hread').2
  omega

/-- A token of ordinary code that is no string is written as it is, and in its
class. -/
theorem classed (h : Reads cs w l) (hkind : l.kind ≠ .string) :
    l.text = w ∧ ∃ r, cs = w ++ r ∧ Classed l.kind w r.head? := by
  obtain ⟨hspells, r, rfl, happart⟩ := h
  cases hspells with
  | whitespace hne hw => exact ⟨rfl, r, rfl, .whitespace hne hw (by simpa using happart)⟩
  | string => exact absurd rfl hkind
  | @number ds hne hds =>
    obtain ⟨c, cs, rfl⟩ := List.exists_cons_of_ne_nil hne
    obtain ⟨hc, hcs⟩ := List.forall_mem_cons.mp hds
    have hpoint := point_not_mem_of_digits hcs
    refine ⟨rfl, r, rfl, .number hc (fun d hd => .inl (hcs d hd)) ?_ ?_ ?_⟩
    · rw [List.count_eq_zero.mpr hpoint]
      exact Nat.zero_le 1
    · intro d hd hdigit
      exact happart d hd (fuses_number.mpr (.inl hdigit))
    · intro _ hnext
      exact happart '.' hnext (fuses_number.mpr (.inr ⟨rfl, point_not_mem_of_digits hds⟩))
  | @decimal ds fs hne hds hfs =>
    obtain ⟨c, cs, rfl⟩ := List.exists_cons_of_ne_nil hne
    obtain ⟨hc, hcs⟩ := List.forall_mem_cons.mp hds
    refine ⟨rfl, r, rfl, .number hc ?_ ?_ ?_ ?_⟩
    · intro d hd
      rcases List.mem_append.mp hd with hd | hd
      · exact .inl (hcs d hd)
      · rcases List.mem_cons.mp hd with rfl | hd
        · exact .inr rfl
        · exact .inl (hfs d hd)
    · show List.count '.' (cs ++ '.' :: fs) ≤ 1
      rw [List.count_append, List.count_cons_self,
        List.count_eq_zero.mpr (point_not_mem_of_digits hcs),
        List.count_eq_zero.mpr (point_not_mem_of_digits hfs)]
    · intro d hd hdigit
      exact happart d hd (fuses_number.mpr (.inl hdigit))
    · intro hmem
      simp at hmem
  | @operator c hc =>
    refine ⟨rfl, r, rfl, .operator (.inl ⟨c, hc, .inl rfl⟩) ?_ ?_ ?_⟩
    · intro _ hnext
      exact happart '=' hnext (by simp)
    · intro hw hnext
      exact happart '>' hnext (by simp [hw])
    · intro hw
      refine ⟨fun hnext => happart '/' hnext (by simp [hw]), ?_⟩
      exact fun hnext => happart '*' hnext (by simp [hw])
  | @operatorEquals c hc =>
    exact ⟨rfl, r, rfl, .operator (.inl ⟨c, hc, .inr rfl⟩) (by simp) (by simp) (by simp)⟩
  | arrow => exact ⟨rfl, r, rfl, .operator (.inr rfl) (by simp) (by simp) (by simp)⟩
  | identifier hc hcs => exact ⟨rfl, r, rfl, .identifier hc hcs (by simpa using happart)⟩
  | punctuation hc => exact ⟨rfl, r, rfl, .punctuation hc⟩
  | line hcs => exact ⟨rfl, r, rfl, classed_line hcs⟩
  | openLine hcs =>
    obtain rfl := eq_nil_of_unclosed (unclosed_openLine hcs) happart
    exact ⟨rfl, [], rfl, classed_openLine hcs⟩
  | block hcs => exact ⟨rfl, r, rfl, classed_block hcs⟩
  | openBlock hcs =>
    obtain rfl := eq_nil_of_unclosed (unclosed_openBlock hcs) happart
    exact ⟨rfl, [], rfl, classed_openBlock hcs⟩

end Recognizer.Reads

/-! ## Tokens of a text -/

section

variable {mode : Mode} {here : Location} {s : Step} {l : Lexeme}

/-- A step that makes no string reads a token of ordinary code, or makes a
bracket. -/
theorem Mode.Takes.reads_or_bracket {r : List Char} (h : mode.Takes here s r.head?)
    (hl : s.lexeme? = some l) (hkind : l.kind ≠ .string) :
    Reads (s.covered ++ r) s.covered l ∨
      l.text = s.covered ∧ Classed l.kind s.covered r.head? ∧ l.kind.isBracket = true := by
  generalize hnext : r.head? = next? at h ⊢
  cases h with
  | token hspells happart | inner hspells happart =>
    cases hl
    exact .inl ⟨hspells, r, rfl, hnext ▸ happart⟩
  | start | nested =>
    cases hl
    exact .inr ⟨rfl, .dollar, rfl⟩
  | finish =>
    cases hl
    exact .inr ⟨rfl, .mark _, rfl⟩
  | close => cases hl
  | text =>
    cases hl
    exact absurd rfl hkind
  | brace =>
    split at hl
    · cases hl
    · cases hl
      exact absurd rfl hkind

end

/-! ## The law -/

/-- **Tokens are in their class and end as late as they can**: no token is without
a kind. One that is no string stands in the text as its lexeme says, its
characters are those of its kind, and the character after them is none that would
go on with it. If it is no bracket either, no longer text at its place is a token
of the grammar. -/
theorem lex_classes {text filename : String} {ts : List Token} (h : lex text filename = .ok ts) :
    ∀ t ∈ ts, t.kind ≠ .nil ∧ (t.kind ≠ .string →
      t.lexeme.toList <+: text.toList.drop t.start ∧
      Classed t.kind t.lexeme.toList text.toList[t.start + t.lexeme.length]? ∧
      (t.kind.isBracket = false → ∀ w l, Spells w l → w <+: text.toList.drop t.start →
        w.length ≤ t.lexeme.length)) := by
  obtain ⟨ms, hpath, htext, rfl⟩ := lex_eq_ok_iff.mp h
  intro t ht
  obtain ⟨m, hm, hmt⟩ := List.mem_filterMap.mp ht
  obtain ⟨l, hl, rfl⟩ := Move.token?_eq_some_iff.mp hmt
  obtain ⟨r, hdrop, htakes⟩ := hpath.takes_of_mem (r := []) (by simpa using htext) m hm
  simp only [String.toList_ofList, String.length_ofList]
  by_cases hkind : l.kind = .string
  · exact ⟨by simp [hkind], fun hne => absurd hkind hne⟩
  have hreads := htakes.reads_or_bracket hl hkind
  obtain ⟨hcovered, hclassed⟩ :
      l.text = m.step.covered ∧ Classed l.kind m.step.covered r.head? := by
    rcases hreads with hreads | ⟨hcovered, hclassed, -⟩
    · obtain ⟨hcovered, r', hr, hclassed⟩ := hreads.classed hkind
      rw [List.append_cancel_left hr]
      exact ⟨hcovered, hclassed⟩
    · exact ⟨hcovered, hclassed⟩
  refine ⟨hclassed.kind_ne_nil, fun _ => ⟨?_, ?_, ?_⟩⟩
  · rw [hdrop, hcovered]
    exact List.prefix_append _ _
  · rw [← List.head?_drop, ← List.drop_drop, hdrop, hcovered, List.drop_left]
    exact hclassed
  · intro hplain w l' hspells hw
    rcases hreads with hreads | ⟨-, -, hbracket⟩
    · rw [hcovered]
      exact hreads.longest hspells (hdrop ▸ hw)
    · rw [hplain] at hbracket
      cases hbracket

/-- A point after a point, a `/` before a `=`, a digit of another script in a word,
and a `*/` that overlaps its `/*`. -/
theorem lex_classes_traps : ∃ ts, lex "1..2/=>a٣/*/ */" "a.mcl" = .ok ts ∧
    ts.map (fun t => (t.kind, t.lexeme)) =
      [(.number, "1."), (.punctuation, "."), (.number, "2"), (.operator, "/="), (.operator, ">"),
        (.identifier, "a٣"), (.comment, "/*/ */")] ∧
    ∀ t ∈ ts, t.kind ≠ .string ∧ t.lexeme.toList <+: "1..2/=>a٣/*/ */".toList.drop t.start ∧
      Classed t.kind t.lexeme.toList "1..2/=>a٣/*/ */".toList[t.start + t.lexeme.length]? ∧
      ∀ w l, Spells w l → w <+: "1..2/=>a٣/*/ */".toList.drop t.start →
        w.length ≤ t.lexeme.length := by
  have h : lex "1..2/=>a٣/*/ */" "a.mcl" = .ok
      [⟨"1.", .number, ⟨1, 1⟩, 0, "a.mcl"⟩, ⟨".", .punctuation, ⟨1, 3⟩, 2, "a.mcl"⟩,
        ⟨"2", .number, ⟨1, 4⟩, 3, "a.mcl"⟩, ⟨"/=", .operator, ⟨1, 5⟩, 4, "a.mcl"⟩,
        ⟨">", .operator, ⟨1, 7⟩, 6, "a.mcl"⟩, ⟨"a٣", .identifier, ⟨1, 8⟩, 7, "a.mcl"⟩,
        ⟨"/*/ */", .comment, ⟨1, 10⟩, 9, "a.mcl"⟩] := by
    cbv
  refine ⟨_, h, rfl, ?_⟩
  intro t ht
  obtain ⟨hkind, hplain⟩ : t.kind ≠ .string ∧ t.kind.isBracket = false := by
    revert t
    decide
  obtain ⟨hplace, hclassed, hlongest⟩ := (lex_classes h t ht).2 hkind
  exact ⟨hkind, hplace, hclassed, hlongest hplain⟩

end ScriptLexer
