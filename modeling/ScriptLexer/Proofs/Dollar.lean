/-
ScriptLexer.Proofs.Dollar — a string with a `$` in front of it.

Plain strings and interpolated strings are read by two scanners. Where a plain
string holds no brace that means anything, a `$` in front of it makes no difference
to what it says (`lex_dollar`): both end at the same mark and stand for the same
text, and what comes behind is read as before, one character further on. If nothing
closes the one then nothing closes the other, and each fails for its own reason.

Marks and braces mean something where no backslash escapes them. `Unescaped` says
which characters those are, by the text alone: a backslash goes together with the
character after it. The scanner of plain strings stops at the first unescaped mark
(`Quote.exists_body`), and a body without an unescaped brace is literal text that
no brace ends or shortens (`Quote.Body.units`).
-/
import Mathlib
import ScriptLexer.Proofs.Composition

namespace ScriptLexer

/-! ## Unescaped characters -/

/-- The character `c` stands at `i`, and no backslash before it escapes it. -/
inductive Unescaped : List Char → Nat → Char → Prop where
  | here (c : Char) (cs : List Char) : Unescaped (c :: cs) 0 c
  | escape (d : Char) {cs : List Char} {i : Nat} {c : Char} :
      Unescaped cs i c → Unescaped ('\\' :: d :: cs) (i + 2) c
  | plain {d : Char} {cs : List Char} {i : Nat} {c : Char} :
      d ≠ '\\' → Unescaped cs i c → Unescaped (d :: cs) (i + 1) c

/-- The first unescaped `q` behind the first character stands at `e`. -/
structure ClosedAt (q : Quote) (cs : List Char) (e : Nat) : Prop where
  pos : 0 < e
  mark : Unescaped cs e q.char
  first : ∀ i < e, 0 < i → ¬ Unescaped cs i q.char

/-- No unescaped brace comes before the first unescaped `q` behind the first
character, and none at all if there is no such `q`. -/
def Braceless (q : Quote) (cs : List Char) : Prop :=
  ∀ i, Unescaped cs i '\x7b' ∨ Unescaped cs i '\x7d' →
    ∃ j < i, 0 < j ∧ Unescaped cs j q.char

namespace Unescaped

variable {cs : List Char} {i : Nat} {c d : Char}

@[simp] theorem not_nil : ¬ Unescaped [] i c := nofun

theorem escape_iff : Unescaped ('\\' :: d :: cs) i c ↔
    (i = 0 ∧ c = '\\') ∨ ∃ j, i = j + 2 ∧ Unescaped cs j c := by
  constructor
  · intro h
    cases h with
    | here => exact .inl ⟨rfl, rfl⟩
    | escape _ h => exact .inr ⟨_, rfl, h⟩
    | plain hd => exact absurd rfl hd
  · rintro (⟨rfl, rfl⟩ | ⟨j, rfl, h⟩)
    · exact .here _ _
    · exact .escape d h

theorem plain_iff (hd : d ≠ '\\') : Unescaped (d :: cs) i c ↔
    (i = 0 ∧ c = d) ∨ ∃ j, i = j + 1 ∧ Unescaped cs j c := by
  constructor
  · intro h
    cases h with
    | here => exact .inl ⟨rfl, rfl⟩
    | escape => exact absurd rfl hd
    | plain _ h => exact .inr ⟨_, rfl, h⟩
  · rintro (⟨rfl, rfl⟩ | ⟨j, rfl, h⟩)
    · exact .here _ _
    · exact .plain hd h

/-- Behind a mark the same characters are unescaped as without it. -/
theorem mark_succ_iff {q : Quote} :
    Unescaped (q.char :: cs) (i + 1) c ↔ Unescaped cs i c := by
  simp [plain_iff q.char_ne.1]

theorem getElem? (h : Unescaped cs i c) : cs[i]? = some c := by
  induction h with
  | here => rfl
  | escape _ _ ih => exact ih
  | plain _ _ ih => exact ih

theorem lt_length (h : Unescaped cs i c) : i < cs.length :=
  (List.getElem?_eq_some_iff.mp h.getElem?).1

/-- What comes after a text escapes nothing in it. -/
theorem append (h : Unescaped cs i c) (r : List Char) : Unescaped (cs ++ r) i c := by
  induction h with
  | here c cs => exact .here c (cs ++ r)
  | escape d _ ih => exact .escape d ih
  | plain hd _ ih => exact .plain hd ih

/-- The unescaped character at `i`, if there is one. -/
def at? : List Char → Nat → Option Char
  | [], _ => none
  | c :: _, 0 => some c
  | '\\' :: _ :: cs, i + 2 => at? cs i
  | '\\' :: _, _ + 1 => none
  | _ :: cs, i + 1 => at? cs i

theorem iff_at? : Unescaped cs i c ↔ at? cs i = some c := by
  constructor
  · intro h
    induction h with
    | here => rfl
    | escape _ _ ih => exact ih
    | plain hd _ ih => simp [at?, hd, ih]
  · intro h
    fun_induction at? with
    | case1 => cases h
    | case2 d cs => cases h; exact .here _ _
    | case3 d cs i ih => exact .escape d (ih h)
    | case4 => cases h
    | case5 d cs i hne hlast ih => exact .plain hlast (ih h)

instance (cs : List Char) (i : Nat) (c : Char) : Decidable (Unescaped cs i c) :=
  decidable_of_iff _ iff_at?.symm

end Unescaped

instance (q : Quote) (cs : List Char) (e : Nat) : Decidable (ClosedAt q cs e) :=
  decidable_of_iff
    (0 < e ∧ Unescaped cs e q.char ∧ ∀ i < e, 0 < i → ¬ Unescaped cs i q.char)
    ⟨fun ⟨hpos, hmark, hfirst⟩ => ⟨hpos, hmark, hfirst⟩,
      fun h => ⟨h.pos, h.mark, h.first⟩⟩

instance (q : Quote) (cs : List Char) : Decidable (Braceless q cs) :=
  decidable_of_iff
    (∀ i < cs.length, Unescaped cs i '\x7b' ∨ Unescaped cs i '\x7d' →
      ∃ j < i, 0 < j ∧ Unescaped cs j q.char)
    ⟨fun h i hbrace => h i (hbrace.elim Unescaped.lt_length Unescaped.lt_length) hbrace,
      fun h i _ hbrace => h i hbrace⟩

/-! ## Bodies of plain strings -/

namespace Quote

variable {q : Quote} {b cs r : List Char} {i : Nat}

/-- Behind a body the same characters are unescaped as without it. -/
theorem Body.unescaped_append (hb : q.Body b) {c : Char} (h : Unescaped r i c) :
    Unescaped (b ++ r) (b.length + i) c := by
  induction hb with
  | nil => simpa using h
  | @escape d cs _ ih =>
    have hshift : ('\\' :: d :: cs).length + i = cs.length + i + 2 := by
      simp only [List.length_cons]
      omega
    rw [hshift]
    exact .escape d ih
  | @plain d cs _ hs _ ih =>
    have hshift : (d :: cs).length + i = cs.length + i + 1 := by
      simp only [List.length_cons]
      omega
    rw [hshift]
    exact .plain hs ih

/-- No unescaped mark stands in a body. -/
theorem Body.length_le (hb : q.Body b) (h : Unescaped (b ++ r) i q.char) : b.length ≤ i := by
  induction hb generalizing i with
  | nil => exact Nat.zero_le i
  | escape d _ ih =>
    rcases Unescaped.escape_iff.mp h with ⟨-, hq⟩ | ⟨j, rfl, hrest⟩
    · exact absurd hq q.char_ne.1
    · simpa using ih hrest
  | plain hq hs _ ih =>
    rcases (Unescaped.plain_iff hs).mp h with ⟨-, hmark⟩ | ⟨j, rfl, hrest⟩
    · exact absurd hmark.symm hq
    · simpa using ih hrest

/-- The scanner of plain strings fails where no mark stands unescaped. -/
theorem body?_eq_none_iff_unescaped :
    q.body? cs = none ↔ ∀ i, ¬ Unescaped cs i q.char := by
  constructor
  · intro h i hmark
    have hlt := hmark.lt_length
    rcases body?_eq_none_iff.mp h with hb | ⟨b, hb, rfl⟩
    · have := hb.length_le (r := []) (by simpa using hmark)
      omega
    · -- the backslash at the end is the only place left
      have hle := hb.length_le hmark
      rw [List.length_append, List.length_singleton] at hlt
      obtain rfl : i = b.length := by omega
      have hlast := hmark.getElem?
      rw [List.getElem?_concat_length] at hlast
      exact q.char_ne.1 (Option.some.inj hlast).symm
  · intro h
    by_contra hsome
    obtain ⟨b, hbody⟩ := Option.ne_none_iff_exists'.mp hsome
    obtain ⟨hb, r, rfl⟩ := body?_eq_some_iff.mp hbody
    exact h _ (hb.unescaped_append (.here q.char r))

/-- Up to the first unescaped mark there is a body. -/
theorem exists_body {e : Nat} (h : ClosedAt q (q.char :: cs) e) :
    ∃ b r, q.Body b ∧ cs = b ++ q.char :: r ∧ e = b.length + 1 := by
  obtain ⟨i, rfl⟩ := Nat.exists_eq_add_of_lt h.pos
  rw [Nat.zero_add] at h
  have hmark := Unescaped.mark_succ_iff.mp h.mark
  cases hbody : q.body? cs with
  | none => exact absurd hmark (body?_eq_none_iff_unescaped.mp hbody i)
  | some b =>
    obtain ⟨hb, r, rfl⟩ := body?_eq_some_iff.mp hbody
    refine ⟨b, r, hb, rfl, ?_⟩
    have hle := hb.length_le hmark
    have hge : ¬ b.length < i := by
      intro hlt
      refine h.first (b.length + 1) (Nat.succ_lt_succ hlt) (Nat.succ_pos _) ?_
      exact Unescaped.mark_succ_iff.mpr (hb.unescaped_append (.here q.char r))
    omega

/-- A body without an unescaped brace is literal text, and is written as it is. -/
theorem Body.units (hb : q.Body b)
    (h : ∀ i, ¬ (Unescaped b i '\x7b' ∨ Unescaped b i '\x7d')) :
    Segment.Units q b ∧ Segment.undouble b = b := by
  induction hb with
  | nil => exact ⟨.nil, rfl⟩
  | escape d _ ih =>
    obtain ⟨hunits, hsame⟩ := ih fun i hbrace => h (i + 2) (hbrace.imp (.escape d) (.escape d))
    exact ⟨.escape d hunits, by rw [Segment.undouble_escape, hsame]⟩
  | @plain d cs hq hs _ ih =>
    obtain ⟨hunits, hsame⟩ := ih fun i hbrace => h (i + 1) (hbrace.imp (.plain hs) (.plain hs))
    have hopen : d ≠ '\x7b' := by
      rintro rfl
      exact h 0 (.inl (.here _ cs))
    have hclose : d ≠ '\x7d' := by
      rintro rfl
      exact h 0 (.inr (.here _ cs))
    exact ⟨.plain hq hs hopen hunits, by rw [Segment.undouble_plain _ hs hopen hclose, hsame]⟩

/-- The body of a closed string is literal text if no brace comes before its end. -/
theorem Body.units_of_braceless (hb : q.Body b)
    (h : Braceless q (q.char :: (b ++ r))) :
    Segment.Units q b ∧ Segment.undouble b = b := by
  refine hb.units ?_
  intro i hbrace
  have hshort : i < b.length := hbrace.elim Unescaped.lt_length Unescaped.lt_length
  have hbehind : Unescaped (q.char :: (b ++ r)) (i + 1) '\x7b' ∨
      Unescaped (q.char :: (b ++ r)) (i + 1) '\x7d' := by
    rw [Unescaped.mark_succ_iff, Unescaped.mark_succ_iff]
    exact hbrace.imp (Unescaped.append · r) (Unescaped.append · r)
  obtain ⟨j, hlt, hpos, hmark⟩ := h (i + 1) hbehind
  obtain ⟨j, rfl⟩ := Nat.exists_eq_add_of_lt hpos
  rw [Nat.zero_add, Unescaped.mark_succ_iff] at hmark
  have hle := hb.length_le hmark
  omega

/-- A text that nothing closes as a plain string is closed by nothing as an
interpolated one, if it has no brace. -/
theorem scan_eq_none (hbody : q.body? cs = none) (h : Braceless q (q.char :: cs)) :
    Segment.scan q cs = none := by
  refine Segment.scan_eq_none_iff.mpr ?_
  rcases body?_eq_none_iff.mp hbody with hb | ⟨b, hb, rfl⟩
  · exact .inl (hb.units_of_braceless (r := []) (by simpa using h)).1
  · exact .inr ⟨b, (hb.units_of_braceless h).1, rfl⟩

end Quote

/-! ## Both scanners -/

/-- The run over `r` in ordinary code, where it comes behind `w`. -/
def Run.behind (w r : List Char) : Run :=
  of Recognizer.code .code (Mark.start.advance w) r

/-- With more in front of it a run is moved along. -/
theorem Run.behind_append (v w r : List Char) :
    behind (v ++ w) r = (behind w r).relocate (Mark.start.advance v) := by
  have hmark : Mark.start.advance (v ++ w) =
      (Mark.start.advance v).relocate (Mark.start.advance w) := by
    rw [Mark.relocate_advance _ Location.regular_start, Mark.advance_append]
    rfl
  rw [behind, hmark]
  exact of_relocate _ .code (Location.regular_start.advance w) r

section

variable {q : Quote} {b w r : List Char} {ms : List Move} {text filename : String}

/-- A text that a path leads into is read by the moves of the path and those behind it. -/
theorem Run.ofText_of_path (hpath : Path .code .start ms .code r.head?)
    (hw : coveredText ms = w) (htext : text.toList = w ++ r) :
    ofText Recognizer.code text =
      { moves := ms ++ (behind w r).moves, fault? := (behind w r).fault? } := by
  subst hw
  rw [ofText, htext]
  exact of_path hpath rfl

/-- A string that is closed, read as a plain string. -/
theorem Quote.Body.path (hb : q.Body b) (next? : Option Char) :
    Path .code .start
      [⟨.start, .code, ⟨some ⟨.string, Text.decode b⟩, q.char :: b ++ [q.char], .code⟩⟩]
      .code next? :=
  .singleton (.token (.string q hb) (by simp [Lexeme.Fuses]))

/-- A string that is closed, read as an interpolated string. -/
theorem Quote.path_of_units (h : Segment.Units q b) (next? : Option Char) :
    Path .code .start
      [⟨.start, .code,
          ⟨some ⟨.interpolationStart, ['$']⟩, ['$'], .literal none Location.start⟩⟩,
        ⟨Mark.start.advance ['$'], .literal none Location.start,
          ⟨some ⟨.string, Text.decode (Segment.undouble b)⟩, q.char :: b,
            .literal (some q) Location.start⟩⟩,
        ⟨(Mark.start.advance ['$']).advance (q.char :: b), .literal (some q) Location.start,
          ⟨some ⟨.interpolationEnd, [q.char]⟩, [q.char], .code⟩⟩]
      .code next? := by
  refine .cons .start (.cons ?_ (.cons .finish .nil))
  exact .text (.first q) h (by simp)

/-- The first token of a text that begins with a string is that string. -/
theorem lex_of_body (hb : q.Body b) (htext : text.toList = q.char :: b ++ [q.char] ++ r) :
    lex text filename =
      match (Run.behind (q.char :: b ++ [q.char]) r).outcome filename with
      | .ok ts => .ok (⟨String.ofList (Text.decode b), .string, ⟨1, 1⟩, 0, filename⟩ :: ts)
      | .error e => .error e := by
  rw [lex, lexWith, Run.ofText_of_path (hb.path r.head?) (by simp) htext, Run.outcome_append]
  rfl

/-- Behind a `$` there are three tokens instead of it, and the rest is moved along. -/
theorem lex_of_units (hunits : Segment.Units q b)
    (htext : text.toList = ['$'] ++ (q.char :: b ++ [q.char]) ++ r) :
    lex text filename =
      match (Run.behind (q.char :: b ++ [q.char]) r).outcome filename with
      | .ok ts => .ok (
          ⟨"$", .interpolationStart, ⟨1, 1⟩, 0, filename⟩ ::
          ⟨String.ofList (Text.decode (Segment.undouble b)), .string, ⟨1, 2⟩, 1, filename⟩ ::
          ⟨q.char.toString, .interpolationEnd,
            Location.start.advance ('$' :: q.char :: b), b.length + 2, filename⟩ ::
          ts.map (Token.relocate (Mark.start.advance ['$'])))
      | .error e => .error (e.relocate (Location.start.advance ['$'])) := by
  rw [lex, lexWith, Run.ofText_of_path (Quote.path_of_units hunits r.head?) (by simp) htext,
    Run.outcome_append, Run.behind_append, Run.outcome_relocate]
  cases (Run.behind (q.char :: b ++ [q.char]) r).outcome filename with
  | error e => rfl
  | ok ts =>
    have hoffset : ((Mark.start.advance ['$']).advance (q.char :: b)).offset = b.length + 2 := by
      show 0 + 1 + (b.length + 1) = b.length + 2
      omega
    simp only [List.filterMap_cons, List.filterMap_nil, Move.token?, Option.map_some, hoffset]
    rfl

end

/-! ## The law -/

/-- **A `$` in front of a string**: let a text begin with a mark, with no unescaped
brace before the mark that closes it. If it is closed, then its first token is a string,
and with a `$` in front there is the same string between the two ends of an
interpolation, and behind it the tokens that came behind the string, or the same
error, moved by the `$`. If it is not closed, then there is an error either way. -/
theorem lex_dollar {text filename : String} {q : Quote} (hquote : text.toList.head? = some q.char)
    (hplain : Braceless q text.toList) :
    (∀ e, ClosedAt q text.toList e → ∃ x : String,
      x.toList = Text.decode ((text.toList.take e).drop 1) ∧
      ((Run.ofText Recognizer.code text).tokens filename).head? =
        some ⟨x, .string, ⟨1, 1⟩, 0, filename⟩ ∧
      lex ("$" ++ text) filename =
        match lex text filename with
        | .ok ts => .ok (
            ⟨"$", .interpolationStart, ⟨1, 1⟩, 0, filename⟩ ::
            ⟨x, .string, ⟨1, 2⟩, 1, filename⟩ ::
            ⟨q.char.toString, .interpolationEnd,
              Location.start.advance ('$' :: text.toList.take e), e + 1, filename⟩ ::
            (ts.drop 1).map (Token.relocate (Mark.start.advance ['$'])))
        | .error err => .error (err.relocate (Location.start.advance ['$']))) ∧
    ((∀ e, 0 < e → ¬ Unescaped text.toList e q.char) →
      lex text filename = .error ⟨.unterminatedString q.char, filename, some ⟨1, 1⟩⟩ ∧
      lex ("$" ++ text) filename =
        .error ⟨.unterminatedInterpolation, filename, some ⟨1, 1⟩⟩) := by
  obtain ⟨cs, htext⟩ : ∃ cs, text.toList = q.char :: cs := List.head?_eq_some_iff.mp hquote
  have hdollar : ("$" ++ text).toList = '$' :: q.char :: cs := by
    rw [String.toList_append, htext]
    rfl
  rw [htext] at hplain
  constructor
  · intro e hclosed
    rw [htext] at hclosed
    obtain ⟨b, r, hb, rfl, rfl⟩ := Quote.exists_body hclosed
    obtain ⟨hunits, hsame⟩ := hb.units_of_braceless hplain
    have htake : text.toList.take (b.length + 1) = q.char :: b := by simp [htext]
    have hstring : text.toList = q.char :: b ++ [q.char] ++ r := by simp [htext]
    have hinner : ("$" ++ text).toList = ['$'] ++ (q.char :: b ++ [q.char]) ++ r := by
      rw [hdollar]
      simp
    rw [htake]
    refine ⟨String.ofList (Text.decode b), by simp, ?_, ?_⟩
    · rw [Run.ofText_of_path (hb.path r.head?) (by simp) hstring]
      rfl
    · rw [lex_of_body hb hstring, lex_of_units hunits hinner, hsame]
      cases (Run.behind (q.char :: b ++ [q.char]) r).outcome filename <;> rfl
  · intro hopen
    have hbody : q.body? cs = none := by
      refine Quote.body?_eq_none_iff_unescaped.mpr ?_
      intro i hmark
      refine hopen (i + 1) (Nat.succ_pos i) ?_
      rw [htext]
      exact Unescaped.mark_succ_iff.mpr hmark
    constructor
    · refine lex_eq_error_iff.mpr
        ⟨[], .code, q.char :: cs, ⟨_, Location.start⟩, .nil, htext, ?_, rfl⟩
      exact .fault (.string .code hbody)
    · refine lex_eq_error_iff.mpr
        ⟨_, _, q.char :: cs, ⟨_, Location.start⟩, .singleton .start, hdollar, ?_, rfl⟩
      exact .fault (.text (.first q) (by simp) (Quote.scan_eq_none hbody hplain))

/-- An escaped brace and an escaped mark are part of a string, and a brace behind the
string is not. A backslash at the end of a text escapes nothing. -/
theorem lex_dollar_escaped :
    (Braceless .single "'\\\x7b\\''\x7d\n1".toList ∧
      ClosedAt .single "'\\\x7b\\''\x7d\n1".toList 5 ∧
      lex ("$" ++ "'\\\x7b\\''\x7d\n1") "a.mcl" = .ok
        [⟨"$", .interpolationStart, ⟨1, 1⟩, 0, "a.mcl"⟩,
          ⟨"\x7b'", .string, ⟨1, 2⟩, 1, "a.mcl"⟩,
          ⟨"'", .interpolationEnd, ⟨1, 7⟩, 6, "a.mcl"⟩,
          ⟨"\x7d", .punctuation, ⟨1, 8⟩, 7, "a.mcl"⟩,
          ⟨"\n", .whitespace, ⟨1, 9⟩, 8, "a.mcl"⟩,
          ⟨"1", .number, ⟨2, 1⟩, 9, "a.mcl"⟩]) ∧
    Braceless .single "'\\".toList ∧
    (∀ e, 0 < e → ¬ Unescaped "'\\".toList e '\'') ∧
    lex "'\\" "a.mcl" = .error ⟨.unterminatedString '\'', "a.mcl", some ⟨1, 1⟩⟩ ∧
    lex ("$" ++ "'\\") "a.mcl" = .error ⟨.unterminatedInterpolation, "a.mcl", some ⟨1, 1⟩⟩ := by
  have hclosed : ClosedAt .single "'\\\x7b\\''\x7d\n1".toList 5 := by decide
  have hplain : Braceless .single "'\\\x7b\\''\x7d\n1".toList := by decide
  have hdangling : Braceless .single "'\\".toList := by decide
  have hopen : ∀ e, 0 < e → ¬ Unescaped "'\\".toList e '\'' := by
    intro e hpos hmark
    have hlt : e < 2 := hmark.lt_length
    obtain rfl : e = 1 := by omega
    exact absurd hmark (by decide)
  refine ⟨⟨hplain, hclosed, ?_⟩, hdangling, hopen, (lex_dollar (by decide) hdangling).2 hopen⟩
  have hlex : lex "'\\\x7b\\''\x7d\n1" "a.mcl" = .ok
      [⟨"\x7b'", .string, ⟨1, 1⟩, 0, "a.mcl"⟩,
        ⟨"\x7d", .punctuation, ⟨1, 7⟩, 6, "a.mcl"⟩,
        ⟨"\n", .whitespace, ⟨1, 8⟩, 7, "a.mcl"⟩,
        ⟨"1", .number, ⟨2, 1⟩, 8, "a.mcl"⟩] := by cbv
  obtain ⟨x, hx, -, hdollar⟩ := (lex_dollar (by decide) hplain).1 5 hclosed
  have hbody : x = "\x7b'" := String.toList_inj.mp (hx.trans (by decide))
  rw [hdollar, hlex, hbody]
  rfl

end ScriptLexer
