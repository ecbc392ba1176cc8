/-
ScriptLexer.Proofs.Priority — the order of the recognizers does not matter.

A list of recognizers gives the reading of the first that does not decline. Of the
seven recognizers of ordinary code no two read at the same place: `kindAt?` says from
the beginning of a text which kind of token can stand there, and a recognizer declines
where that is not its own kind (`ordinary_readsOnly`). So whatever reads a text is
found whichever recognizer is asked first (`firstOf_perm`), and the lexer does not
depend on their order (`lex_priority`). Nor does it matter that a `$` is looked for
behind them, since none of them reads one.
-/
import Mathlib
import ScriptLexer.Proofs.Initial
import ScriptLexer.Run

namespace ScriptLexer

/-! ## The kind of token that a text begins with -/

/-- The kind of the tokens that begin with a character of a class. -/
def Initial.kind : Initial → TokenKind
  | .space => .whitespace
  | .quote => .string
  | .digit => .number
  | .operator => .operator
  | .word => .identifier
  | .punctuation => .punctuation

/-- The kind of token that can stand at the beginning of a text, if one can. A comment
begins with an operator character, so it takes the next one to tell. -/
def kindAt? : List Char → Option TokenKind
  | '/' :: '/' :: _ => some .comment
  | '/' :: '*' :: _ => some .comment
  | c :: _ => (initial? c).map Initial.kind
  | [] => none

theorem kindAt?_of_initial? {c : Char} {i : Initial} (cs : List Char)
    (h : initial? c = some i) (hi : i ≠ .operator) : kindAt? (c :: cs) = some i.kind := by
  have hslash : c ≠ '/' := by
    rintro rfl
    exact hi (Option.some.inj h).symm
  unfold kindAt?
  split
  · next heq => exact absurd (List.cons.inj heq).1 hslash
  · next heq => exact absurd (List.cons.inj heq).1 hslash
  · next heq =>
    rw [← (List.cons.inj heq).1, h]
    rfl
  · next heq => cases heq

namespace Recognizer

/-! ## Recognizers that lie apart -/

/-- The recognizer declines where no token of the kind can stand. -/
def ReadsOnly (r : Recognizer) (kind : TokenKind) : Prop :=
  ∀ cs, kindAt? cs ≠ some kind → r cs = .declined

/-- Where one of the two recognizers reads, the other declines. -/
def Apart (r r' : Recognizer) : Prop :=
  ∀ cs, r cs = .declined ∨ r' cs = .declined

theorem Apart.symm {r r' : Recognizer} (h : Apart r r') : Apart r' r :=
  fun cs => (h cs).symm

/-- Only one kind of token can stand at a place. -/
theorem ReadsOnly.apart {r r' : Recognizer} {kind kind' : TokenKind} (h : r.ReadsOnly kind)
    (h' : r'.ReadsOnly kind') (hne : kind ≠ kind') : Apart r r' := by
  intro cs
  by_cases hkind : kindAt? cs = some kind
  · refine .inr (h' cs ?_)
    rw [hkind]
    exact fun heq => hne (Option.some.inj heq)
  · exact .inl (h cs hkind)

/-- Recognizers of different kinds lie apart. -/
theorem pairwise_apart {rs : List Recognizer} {kinds : List TokenKind}
    (h : List.Forall₂ ReadsOnly rs kinds) (hnodup : kinds.Nodup) : rs.Pairwise Apart := by
  induction h with
  | nil => exact .nil
  | @cons r kind rs kinds hr hrs ih =>
    obtain ⟨hfirst, hrest⟩ := List.nodup_cons.mp hnodup
    refine .cons ?_ (ih hrest)
    intro r' hr'
    obtain ⟨i, hi, rfl⟩ := List.getElem_of_mem hr'
    have hi' : i < kinds.length := hrs.length_eq ▸ hi
    refine hr.apart (hrs.get hi hi') ?_
    rintro rfl
    exact hfirst (List.getElem_mem hi')

/-! ## The seven recognizers -/

/-- A recognizer that is told by the class of the first character reads the tokens
of that class. -/
theorem readsOnly_of_initial {r : Recognizer} {i : Initial} (hnil : r [] = .declined)
    (hcons : ∀ c cs, initial? c ≠ some i → r (c :: cs) = .declined) (hi : i ≠ .operator) :
    r.ReadsOnly i.kind := by
  intro cs h
  cases cs with
  | nil => exact hnil
  | cons c cs => exact hcons c cs fun hc => h (kindAt?_of_initial? cs hc hi)

theorem operator_readsOnly : ReadsOnly operator .operator := by
  intro cs h
  unfold kindAt? at h
  split at h
  · rfl
  · rfl
  · next c cs _ _ =>
    refine operator_declined cs ?_
    intro hc
    exact h (by rw [hc]; rfl)
  · rfl

theorem comment_readsOnly : ReadsOnly comment .comment := by
  intro cs h
  unfold comment
  split
  · exact absurd rfl h
  · exact absurd rfl h
  · rfl

/-- Each recognizer of ordinary code reads one kind of token. -/
theorem ordinary_readsOnly : List.Forall₂ ReadsOnly ordinary
    [.whitespace, .string, .number, .operator, .identifier, .punctuation, .comment] := by
  refine .cons ?_ (.cons ?_ (.cons ?_ (.cons operator_readsOnly
    (.cons ?_ (.cons ?_ (.cons comment_readsOnly .nil))))))
  · exact readsOnly_of_initial (i := .space) rfl (fun _ => whitespace_declined) (by decide)
  · exact readsOnly_of_initial (i := .quote) rfl (fun _ => string_declined) (by decide)
  · exact readsOnly_of_initial (i := .digit) rfl (fun _ => number_declined) (by decide)
  · exact readsOnly_of_initial (i := .word) rfl (fun _ => identifier_declined) (by decide)
  · exact readsOnly_of_initial (i := .punctuation) rfl (fun _ => punctuation_declined) (by decide)

theorem ordinary_pairwise_apart : ordinary.Pairwise Apart :=
  pairwise_apart ordinary_readsOnly (by decide)

/-- No token of ordinary code begins with a `$`. -/
theorem ordinary_dollar {r : Recognizer} (hr : r ∈ ordinary) (cs : List Char) :
    r ('$' :: cs) = .declined := by
  obtain ⟨i, hi, rfl⟩ := List.getElem_of_mem hr
  have hkind : kindAt? ('$' :: cs) = none := rfl
  exact ordinary_readsOnly.get hi (ordinary_readsOnly.length_eq ▸ hi) _ (by simp [hkind])

/-! ## The first that reads -/

section

variable {rs rs' : List Recognizer} {cs : List Char}

theorem firstOf_eq_declined (h : ∀ r ∈ rs, r cs = .declined) : firstOf rs cs = .declined := by
  induction rs with
  | nil => rfl
  | cons r rs ih =>
    obtain ⟨hr, hrs⟩ := List.forall_mem_cons.mp h
    rw [firstOf, hr]
    exact ih hrs

/-- Of recognizers that lie apart the one that reads is the first. -/
theorem firstOf_eq_of_mem (h : rs.Pairwise Apart) {r : Recognizer} (hr : r ∈ rs)
    (hread : r cs ≠ .declined) : firstOf rs cs = r cs := by
  induction h with
  | nil => cases hr
  | @cons r' rs hapart _ ih =>
    rw [firstOf]
    rcases List.mem_cons.mp hr with rfl | hr
    · split
      · next hdeclined => exact absurd hdeclined hread
      · rfl
    · rw [(hapart r hr cs).resolve_right hread]
      exact ih hr

/-- Recognizers that lie apart may be asked in any order. -/
theorem firstOf_perm (h : rs.Pairwise Apart) (hperm : rs'.Perm rs) : firstOf rs' = firstOf rs := by
  have h' : rs'.Pairwise Apart := (hperm.pairwise_iff Apart.symm).mpr h
  funext cs
  by_cases hread : ∃ r ∈ rs, r cs ≠ .declined
  · obtain ⟨r, hr, hread⟩ := hread
    rw [firstOf_eq_of_mem h hr hread, firstOf_eq_of_mem h' (hperm.mem_iff.mpr hr) hread]
  · have hdeclined : ∀ r ∈ rs, r cs = .declined := by
      simpa using hread
    rw [firstOf_eq_declined hdeclined,
      firstOf_eq_declined fun r hr => hdeclined r (hperm.mem_iff.mp hr)]

end

end Recognizer

/-! ## The law -/

open Recognizer in
/-- **The order of the recognizers does not matter**: wherever the lexer looks, at most
one of the seven does not decline, and none reads a `$`. So in whatever order they are
asked, every text has the same tokens or the same error. -/
theorem lex_priority :
    (ordinary.Pairwise fun r r' => ∀ cs, r cs = .declined ∨ r' cs = .declined) ∧
    (∀ r ∈ ordinary, ∀ cs, r ('$' :: cs) = .declined) ∧
    ∀ rs : List Recognizer, rs.Perm ordinary →
      ∀ text filename, lexWith (firstOf rs) text filename = lex text filename := by
  refine ⟨ordinary_pairwise_apart, fun r => ordinary_dollar, ?_⟩
  intro rs hperm text filename
  rw [firstOf_perm ordinary_pairwise_apart hperm]
  rfl

open Recognizer in
/-- The last recognizer asked first: a comment and an operator that begin alike, in
ordinary code and in an expression, and then a string that nothing closes. -/
theorem lex_priority_reversed :
    ordinary.reverse.Perm ordinary ∧
    lexWith (firstOf ordinary.reverse) "/=/**/$'\x7b1./x//\n\x7d'" "a.mcl" = .ok
      [⟨"/=", .operator, ⟨1, 1⟩, 0, "a.mcl"⟩, ⟨"/**/", .comment, ⟨1, 3⟩, 2, "a.mcl"⟩,
        ⟨"$", .interpolationStart, ⟨1, 7⟩, 6, "a.mcl"⟩, ⟨"1.", .number, ⟨1, 10⟩, 9, "a.mcl"⟩,
        ⟨"/", .operator, ⟨1, 12⟩, 11, "a.mcl"⟩, ⟨"x", .identifier, ⟨1, 13⟩, 12, "a.mcl"⟩,
        ⟨"//\n", .comment, ⟨1, 14⟩, 13, "a.mcl"⟩,
        ⟨"'", .interpolationEnd, ⟨2, 2⟩, 17, "a.mcl"⟩] ∧
    lexWith (firstOf ordinary.reverse) "/'/" "a.mcl" =
      .error ⟨.unterminatedString '\'', "a.mcl", some ⟨1, 2⟩⟩ := by
  have hperm : ordinary.reverse.Perm ordinary := List.reverse_perm ordinary
  refine ⟨hperm, ?_, ?_⟩
  · rw [lex_priority.2.2 _ hperm]
    cbv
  · rw [lex_priority.2.2 _ hperm]
    cbv

end ScriptLexer
