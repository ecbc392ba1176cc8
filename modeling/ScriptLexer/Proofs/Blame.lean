/-
ScriptLexer.Proofs.Blame — what an error points at.

Every error of a text names a place in it, and the text bears it out
(`lex_error_exact`): the character at the place is the one that the error is
about, and what comes before the character is no reason for an error of its own.
It lexes, or it ends in an expression. `Blames` has one constructor for each
cause that a text can give rise to, with what the text shows at the place.

A run stops where a step fails or where the text ends. A step through code
fails at the very place that is reported, and the path to it is also a path
through the beginning alone (`Path.at_end`). Literal text, and the end inside
an interpolated string, are reported at the `$`, to which the path leads back
(`Path.exists_opening`).
-/
import Mathlib
import ScriptLexer.Proofs.Interpolation

namespace ScriptLexer

/-! ## What errors point at -/

/-- The first `n` characters of a text. -/
def beginning (text : String) (n : Nat) : String :=
  String.ofList (text.toList.take n)

/-- A text lexes, or all that is wrong with it is that an interpolated string has
no end. -/
def Continues (text filename : String) : Prop :=
  (∃ ts, lex text filename = .ok ts) ∨
    ∃ e, lex text filename = .error e ∧ e.cause = .unterminatedInterpolation

/-- An error with this cause is right to point at the character at offset `i`. -/
inductive Blames (text filename : String) (i : Nat) : Cause → Prop where
  /-- The opening mark of a string that has no closing one. -/
  | unterminatedString {q : Quote} : text.toList[i]? = some q.char →
      (∀ b r, q.Body b → text.toList.drop (i + 1) ≠ b ++ q.char :: r) →
      Continues (beginning text i) filename →
      Blames text filename i (.unterminatedString q.char)
  /-- A `$` of ordinary code. -/
  | unterminatedInterpolation : text.toList[i]? = some '$' →
      (∃ ts, lex (beginning text i) filename = .ok ts) →
      Blames text filename i .unterminatedInterpolation
  /-- The character after a `$` of ordinary code, where a mark should be. -/
  | invalidTerminator {c : Char} : text.toList[i]? = some c → (∀ q : Quote, c ≠ q.char) →
      0 < i → text.toList[i - 1]? = some '$' →
      (∃ ts, lex (beginning text (i - 1)) filename = .ok ts) →
      Blames text filename i (.invalidTerminator c)
  /-- A character that begins nothing. -/
  | unexpectedCharacter {c : Char} : text.toList[i]? = some c →
      (∀ k : Initial, ¬ k.Holds c) → c ≠ '$' → Continues (beginning text i) filename →
      Blames text filename i (.unexpectedCharacter c)

theorem Blames.lt_length {text filename : String} {i : Nat} {cause : Cause}
    (h : Blames text filename i cause) : i < text.toList.length := by
  have hlt : ∀ c, text.toList[i]? = some c → i < text.toList.length := fun _ hc =>
    (List.getElem?_eq_some_iff.mp hc).1
  cases h with
  | unterminatedString hc => exact hlt _ hc
  | unterminatedInterpolation hc => exact hlt _ hc
  | invalidTerminator hc => exact hlt _ hc
  | unexpectedCharacter hc => exact hlt _ hc

/-! ## The beginning of a text -/

section

variable {mode : Mode} {ms : List Move} {next? : Option Char} {text filename : String}
  {r : List Char} {opened : Location}

/-- A path into code may lead to the end of a text, if it is not one to a `}`. -/
theorem Path.at_end {mark : Mark} {mode' : Mode} (h : Path mode mark ms mode' next?)
    (hreads : mode'.ReadsCode) (hnext : next? ≠ some '\x7d') : Path mode mark ms mode' none := by
  refine h.of_getLast? ?_
  intro m hm
  obtain ⟨before, rfl⟩ := List.getLast?_eq_some_iff.mp hm
  obtain ⟨-, -, htakes, rfl⟩ := h.of_concat
  exact htakes.before_other hreads hnext (by simp) (by simp)

theorem beginning_of_path (htext : text.toList = coveredText ms ++ r) :
    beginning text (coveredText ms).length = String.ofList (coveredText ms) := by
  rw [beginning, htext, List.take_left]

/-- Up to a boundary in ordinary code a text lexes. -/
theorem lex_beginning_of_code (h : Path .code .start ms .code next?)
    (hnext : next? ≠ some '\x7d') (htext : text.toList = coveredText ms ++ r) (filename : String) :
    ∃ ts, lex (beginning text (coveredText ms).length) filename = .ok ts := by
  rw [beginning_of_path htext]
  exact ⟨_, lex_eq_ok_iff.mpr ⟨ms, h.at_end .code hnext, String.toList_ofList, rfl⟩⟩

/-- Up to a boundary in code a text lexes, or ends in an expression. -/
theorem continues_beginning (h : Path .code .start ms mode next?) (hreads : mode.ReadsCode)
    (hnext : next? ≠ some '\x7d') (htext : text.toList = coveredText ms ++ r) (filename : String) :
    Continues (beginning text (coveredText ms).length) filename := by
  cases hreads with
  | code => exact .inl (lex_beginning_of_code h hnext htext filename)
  | expression q opened =>
    rw [beginning_of_path htext]
    have hstops : Stops (.expression q opened) (Location.start.advance (coveredText ms)) []
        (some ⟨.unterminatedInterpolation, opened⟩) := .atEnd
    exact .inr ⟨_, lex_eq_error_iff.mpr ⟨ms, _, [], _, h.at_end (.expression q opened) hnext,
      by simp, hstops, rfl⟩, rfl⟩

/-! ## Where a run stops -/

theorem Mode.atEnd_eq_some_iff {fault : Fault} : mode.atEnd = some fault ↔
    ∃ opened, mode.opened? = some opened ∧ fault = ⟨.unterminatedInterpolation, opened⟩ := by
  cases mode <;> simp [atEnd, opened?, eq_comm]

/-- An error in an interpolated string points at the `$`. -/
theorem Path.exists_blames (h : Path .code .start ms mode next?)
    (htext : text.toList = coveredText ms ++ r) (hopened : mode.opened? = some opened)
    (filename : String) :
    ∃ i, opened = Location.start.advance (text.toList.take i) ∧
      Blames text filename i .unterminatedInterpolation := by
  obtain ⟨before, after, hbefore, hcovered, hlocation, -⟩ := h.exists_opening hopened
  rw [hcovered, List.append_assoc, List.cons_append] at htext
  refine ⟨(coveredText before).length, ?_, .unterminatedInterpolation ?_ ?_⟩
  · rw [hlocation, htext, List.take_left]
  · simp [htext]
  · exact lex_beginning_of_code hbefore (by decide) htext filename

/-- Where a step fails, or the text ends too early, there is a character to blame. -/
theorem Stops.exists_blames {fault : Fault} (hpath : Path .code .start ms mode r.head?)
    (htext : text.toList = coveredText ms ++ r)
    (h : Stops mode (Location.start.advance (coveredText ms)) r (some fault)) (filename : String) :
    ∃ i, fault.location = Location.start.advance (text.toList.take i) ∧
      Blames text filename i fault.cause := by
  generalize hfault : some fault = fault? at h
  cases h with
  | atEnd =>
    obtain ⟨opened, hopened, rfl⟩ := Mode.atEnd_eq_some_iff.mp hfault.symm
    exact hpath.exists_blames htext hopened filename
  | fault h =>
    cases hfault
    have htake : text.toList.take (coveredText ms).length = coveredText ms := by
      rw [htext, List.take_left]
    cases h with
    | @string _ _ q cs hreads hbody =>
      refine ⟨(coveredText ms).length, by rw [htake], .unterminatedString ?_ ?_ ?_⟩
      · simp [htext]
      · intro b r hb hr
        rw [htext, ← List.drop_drop, List.drop_left] at hr
        have hsome := Quote.body?_append_mark hb r
        rw [← hr] at hsome
        simp [hbody] at hsome
      · refine continues_beginning hpath hreads ?_ htext filename
        simpa using q.char_ne.2.2
    | @character _ _ c cs hreads hc hdollar =>
      have hinitial : ∀ k : Initial, ¬ k.Holds c := by
        intro k hk
        rw [initial?_eq_some_iff.mpr hk] at hc
        cases hc
      refine ⟨(coveredText ms).length, by rw [htake], .unexpectedCharacter ?_ hinitial hdollar ?_⟩
      · simp [htext]
      · refine continues_beginning hpath hreads ?_ htext filename
        intro hbrace
        cases hbrace
        exact hinitial .punctuation (initial?_eq_some_iff.mp (by decide))
    | @terminator opened _ c cs hquote =>
      obtain ⟨before, after, hbefore, hcovered, -, -, hunread⟩ := hpath.exists_opening rfl
      rw [hunread rfl] at hcovered
      refine ⟨(coveredText ms).length, by rw [htake], .invalidTerminator ?_ ?_ ?_ ?_ ?_⟩
      · simp [htext]
      · intro q hq
        rw [Quote.ofChar?_eq_some_iff.mpr hq] at hquote
        cases hquote
      · simp [hcovered]
      · simp [htext, hcovered]
      · rw [hcovered] at htext ⊢
        rw [List.append_assoc] at htext
        simpa using lex_beginning_of_code hbefore (by decide) htext filename
    | text => exact hpath.exists_blames htext rfl filename

end

/-! ## Errors are exact -/

/-- **Errors are exact**: an error names the file it is in, and the location of
a character of the text. That character is the one that its cause is about, and
the text before it has no other fault. -/
theorem lex_error_exact {text filename : String} {e : LexError}
    (h : lex text filename = .error e) :
    e.filename = filename ∧ ∃ i, i < text.length ∧
      e.location? = some (Location.start.advance (text.toList.take i)) ∧
      Blames text filename i e.cause := by
  obtain ⟨ms, mode, r, fault, hpath, htext, hstops, rfl⟩ := lex_eq_error_iff.mp h
  obtain ⟨i, hlocation, hblames⟩ := hstops.exists_blames hpath htext filename
  refine ⟨rfl, i, ?_, congrArg some hlocation, hblames⟩
  rw [← String.length_toList]
  exact hblames.lt_length

/-- A string in an expression that nothing closes: the error is about its mark on
the second line, and the text before the mark ends in the expression. -/
theorem lex_error_exact_inner :
    lex "é\n$'\x7b$\"\\\"" "a.mcl" =
      .error ⟨.unterminatedString '"', "a.mcl", some ⟨2, 5⟩⟩ ∧
    ∃ i, i < 9 ∧
      some (⟨2, 5⟩ : Location) =
        some (Location.start.advance ("é\n$'\x7b$\"\\\"".toList.take i)) ∧
      Blames "é\n$'\x7b$\"\\\"" "a.mcl" i (.unterminatedString '"') := by
  have h : lex "é\n$'\x7b$\"\\\"" "a.mcl" =
      .error ⟨.unterminatedString '"', "a.mcl", some ⟨2, 5⟩⟩ := by cbv
  obtain ⟨-, hblamed⟩ := lex_error_exact h
  exact ⟨h, hblamed⟩

end ScriptLexer
