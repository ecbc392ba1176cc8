/-
ScriptLexer.Proofs.Initial — the first character of a token decides which
recognizer reads it.

`initial?` sorts characters into six classes by the first character of a
token. The classes lie apart: each test on characters holds exactly on the
characters of its class (`initial?_eq_some_iff`), so the order of the tests,
and with it the order of the recognizers, does not matter.

`code_cons` says what the recognizer of ordinary code does with a text: it
asks the one recognizer of the class, and for an operator character the
recognizer of comments after it.
-/
import ScriptLexer.Recognizer

namespace ScriptLexer

/-! ## Classes -/

/-- What a token of ordinary code may begin with. -/
inductive Initial where
  | space
  | quote
  | digit
  | operator
  | word
  | punctuation
  deriving DecidableEq, Repr

/-- The test that a recognizer makes on the first character of its tokens. -/
def Initial.Holds (c : Char) : Initial → Prop
  | .space => isSpace c = true
  | .quote => ∃ q : Quote, c = q.char
  | .digit => c.isDigit = true
  | .operator => isOperator c = true
  | .word => isWordStart c = true
  | .punctuation => isPunctuation c = true

/-- The class of a character, if a token of ordinary code may begin with it. -/
def initial? (c : Char) : Option Initial :=
  if isSpace c then some .space
  else if (Quote.ofChar? c).isSome then some .quote
  else if c.isDigit then some .digit
  else if isOperator c then some .operator
  else if isWordStart c then some .word
  else if isPunctuation c then some .punctuation
  else none

/-! ## The classes lie apart

Spaces, operators and punctuation are short lists, on which the other tests
are evaluated one character at a time. A letter is none of those, since a
member of the lists is no letter. -/

/-- What holds of every member of a list holds of the characters it contains. -/
theorem of_contains {p : Char → Prop} [DecidablePred p] {cs : List Char} {c : Char}
    (hall : (cs.all fun d => decide (p d)) = true) (h : cs.contains c = true) : p c := by
  rw [List.all_eq_true] at hall
  exact of_decide_eq_true (hall c (List.contains_iff_mem.mp h))

theorem initial?_of_isSpace {c : Char} (h : isSpace c = true) : initial? c = some .space := by
  rw [initial?, if_pos h]

theorem initial?_quote (q : Quote) : initial? q.char = some .quote := by
  cases q <;> rfl

theorem initial?_of_isOperator {c : Char} (h : isOperator c = true) :
    initial? c = some .operator :=
  of_contains (p := fun d => initial? d = some .operator) (by decide) h

theorem initial?_of_isPunctuation {c : Char} (h : isPunctuation c = true) :
    initial? c = some .punctuation :=
  of_contains (p := fun d => initial? d = some .punctuation) (by decide) h

/-- No blank is a digit or a letter. -/
theorem isSpace_apart {c : Char} (h : isSpace c = true) :
    c.isDigit = false ∧ isWordStart c = false :=
  of_contains (p := fun d => d.isDigit = false ∧ isWordStart d = false) (by decide) h

/-- No operator begins a word. -/
theorem isWordStart_of_isOperator {c : Char} (h : isOperator c = true) :
    isWordStart c = false :=
  of_contains (p := fun d => isWordStart d = false) (by decide) h

/-- No digit begins a word. -/
theorem isWordStart_of_isDigit {c : Char} (h : c.isDigit = true) : isWordStart c = false := by
  have hlt : c.toNat < 0x41 := by
    simp only [Char.isDigit, Bool.and_eq_true, decide_eq_true_eq] at h
    have hle : c.val.toNat ≤ 57 := UInt32.le_iff_toNat_le.mp h.2
    have hc : c.toNat = c.val.toNat := rfl
    omega
  rw [Bool.eq_false_iff, Ne, isWordStart_iff]
  rintro (rfl | ⟨r, hr, hle, -⟩)
  · exact absurd hlt (by decide)
  · have := Unicode.not_mem_of_lt_first Unicode.alphabeticRanges_ascending hlt r hr
    omega

theorem initial?_of_isDigit {c : Char} (h : c.isDigit = true) : initial? c = some .digit := by
  have hs : ¬ isSpace c = true := by
    intro hs
    rw [(isSpace_apart hs).1] at h
    cases h
  have hq : Quote.ofChar? c = none := by
    cases hq : Quote.ofChar? c with
    | none => rfl
    | some q =>
      rw [Quote.ofChar?_eq_some_iff.mp hq] at h
      cases q <;> cases h
  simp [initial?, hs, hq, h]

theorem initial?_of_isWordStart {c : Char} (h : isWordStart c = true) :
    initial? c = some .word := by
  have hs : ¬ isSpace c = true := by
    intro hs
    rw [(isSpace_apart hs).2] at h
    cases h
  have hq : Quote.ofChar? c = none := by
    cases hq : Quote.ofChar? c with
    | none => rfl
    | some q =>
      rw [Quote.ofChar?_eq_some_iff.mp hq] at h
      cases q <;> exact absurd h (by decide)
  have hd : ¬ c.isDigit = true := by
    intro hd
    rw [isWordStart_of_isDigit hd] at h
    cases h
  have ho : ¬ isOperator c = true := by
    intro ho
    rw [isWordStart_of_isOperator ho] at h
    cases h
  simp [initial?, hs, hq, hd, ho, h]

/-- Each test holds exactly on its class. -/
theorem initial?_eq_some_iff {c : Char} {i : Initial} : initial? c = some i ↔ i.Holds c := by
  constructor
  · intro h
    unfold initial? at h
    split at h
    · cases h; assumption
    split at h
    · next hq =>
      cases h
      obtain ⟨q, hq⟩ := Option.isSome_iff_exists.mp hq
      exact ⟨q, Quote.ofChar?_eq_some_iff.mp hq⟩
    split at h
    · cases h; assumption
    split at h
    · cases h; assumption
    split at h
    · cases h; assumption
    split at h
    · cases h; assumption
    · cases h
  · intro h
    cases i with
    | space => exact initial?_of_isSpace h
    | quote =>
      obtain ⟨q, rfl⟩ := h
      exact initial?_quote q
    | digit => exact initial?_of_isDigit h
    | operator => exact initial?_of_isOperator h
    | word => exact initial?_of_isWordStart h
    | punctuation => exact initial?_of_isPunctuation h

namespace Recognizer

/-! ## A recognizer declines what begins outside its class -/

theorem whitespace_declined {c : Char} (cs : List Char) (h : initial? c ≠ some .space) :
    whitespace (c :: cs) = .declined := by
  have hc : isSpace c = false :=
    Bool.eq_false_iff.mpr fun hs => h (initial?_of_isSpace hs)
  simp [whitespace, hc]

theorem string_declined {c : Char} (cs : List Char) (h : initial? c ≠ some .quote) :
    string (c :: cs) = .declined := by
  have hq : Quote.ofChar? c = none := by
    cases hq : Quote.ofChar? c with
    | none => rfl
    | some q =>
      refine absurd ?_ h
      rw [Quote.ofChar?_eq_some_iff.mp hq, initial?_quote]
  simp [string, hq]

theorem number_declined {c : Char} (cs : List Char) (h : initial? c ≠ some .digit) :
    number (c :: cs) = .declined := by
  have hc : c.isDigit = false :=
    Bool.eq_false_iff.mpr fun hd => h (initial?_of_isDigit hd)
  simp [number, hc]

theorem operator_declined {c : Char} (cs : List Char) (h : initial? c ≠ some .operator) :
    operator (c :: cs) = .declined := by
  have hc : isOperator c = false :=
    Bool.eq_false_iff.mpr fun ho => h (initial?_of_isOperator ho)
  have heq : c ≠ '=' := by
    intro heq
    rw [heq] at hc
    cases hc
  unfold operator
  split <;> simp_all

theorem identifier_declined {c : Char} (cs : List Char) (h : initial? c ≠ some .word) :
    identifier (c :: cs) = .declined := by
  have hc : isWordStart c = false :=
    Bool.eq_false_iff.mpr fun hw => h (initial?_of_isWordStart hw)
  simp [identifier, hc]

theorem punctuation_declined {c : Char} (cs : List Char) (h : initial? c ≠ some .punctuation) :
    punctuation (c :: cs) = .declined := by
  have hc : isPunctuation c = false :=
    Bool.eq_false_iff.mpr fun hp => h (initial?_of_isPunctuation hp)
  simp [punctuation, hc]

/-- A comment begins with an operator character. -/
theorem comment_declined {c : Char} (cs : List Char) (h : initial? c ≠ some .operator) :
    comment (c :: cs) = .declined := by
  have hc : c ≠ '/' := by
    intro hc
    rw [hc] at h
    exact h (by decide)
  unfold comment
  split <;> simp_all

/-! ## Dispatch -/

/-- The recognizer of operators and, if it declines, that of comments. -/
def operatorOrComment : Recognizer :=
  firstOf [operator, comment]

/-- The recognizers that read what begins with a character of a class. -/
def ofInitial : Initial → Recognizer
  | .space => whitespace
  | .quote => string
  | .digit => number
  | .operator => operatorOrComment
  | .word => identifier
  | .punctuation => punctuation

/-- The recognizer of ordinary code asks the recognizer of the class of the
first character. Every other one would decline, before it or after it. -/
theorem code_cons (c : Char) (cs : List Char) :
    code (c :: cs) = match initial? c with
      | some i => ofInitial i (c :: cs)
      | none => .declined := by
  have hspace := whitespace_declined (c := c) cs
  have hquote := string_declined (c := c) cs
  have hdigit := number_declined (c := c) cs
  have hoper := operator_declined (c := c) cs
  have hword := identifier_declined (c := c) cs
  have hpunct := punctuation_declined (c := c) cs
  have hcomm := comment_declined (c := c) cs
  rw [code, ordinary]
  cases hi : initial? c with
  | none => simp_all [firstOf]
  | some i =>
    cases i <;> simp_all [firstOf, ofInitial, operatorOrComment] <;> split <;> simp_all

end Recognizer

end ScriptLexer
