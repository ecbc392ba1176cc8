/-
ScriptLexer.CharClass — which characters begin and continue a token.

Whitespace, digits, operators and punctuation are ASCII. Words follow
Unicode: a letter of any script may begin one, and a letter or a number of
any script may continue it. The two quotation marks are a type of their
own, since a string remembers which of them opened it.
-/
import ScriptLexer.Unicode.Alphabetic
import ScriptLexer.Unicode.Numeric

namespace ScriptLexer

/-! ## Classes -/

/-- Blank, tab, newline, carriage return, vertical tab and form feed. -/
def isSpace (c : Char) : Bool :=
  [' ', '\t', '\n', '\r', '\x0b', '\x0c'].contains c

/-- The characters that make an operator, alone or before `=`. -/
def isOperator (c : Char) : Bool :=
  ['-', '+', '*', '=', '>', '<', '!', '%', '^', '/'].contains c

/-- The characters that are a token by themselves. -/
def isPunctuation (c : Char) : Bool :=
  ['.', ',', ':', ';', '(', ')', '[', ']', '{', '}'].contains c

/-- A letter or an underscore. -/
def isWordStart (c : Char) : Bool :=
  Unicode.isAlphabetic c || c == '_'

/-- A letter, a number or an underscore. -/
def isWordPart (c : Char) : Bool :=
  Unicode.isAlphabetic c || Unicode.isNumeric c || c == '_'

/-- What begins a word: an underscore, or a code point in the table of letters. -/
theorem isWordStart_iff {c : Char} : isWordStart c = true ↔
    c = '_' ∨ ∃ r ∈ Unicode.alphabeticRanges, r.first ≤ c.toNat ∧ c.toNat ≤ r.last := by
  rw [isWordStart, Bool.or_eq_true, Unicode.isAlphabetic_iff, beq_iff_eq, or_comm]

/-- What continues a word: the same, or a code point in the table of numbers. -/
theorem isWordPart_iff {c : Char} : isWordPart c = true ↔
    isWordStart c = true ∨ ∃ r ∈ Unicode.numericRanges, r.first ≤ c.toNat ∧ c.toNat ≤ r.last := by
  rw [isWordPart, isWordStart, Bool.or_eq_true, Bool.or_eq_true, Bool.or_eq_true, or_right_comm,
    Unicode.isNumeric_iff]

/-! ## Quotation marks -/

/-- The two marks that may enclose a string. -/
inductive Quote where
  | double
  | single
  deriving DecidableEq, Repr

namespace Quote

/-- The mark itself. -/
def char : Quote → Char
  | double => '"'
  | single => '\''

/-- The quotation mark that a character is, if it is one. -/
def ofChar? (c : Char) : Option Quote :=
  if c = '"' then some double
  else if c = '\'' then some single
  else none

@[simp] theorem ofChar?_char (q : Quote) : ofChar? q.char = some q := by
  cases q <;> rfl

theorem ofChar?_eq_some_iff {c : Char} {q : Quote} : ofChar? c = some q ↔ c = q.char := by
  constructor
  · intro h
    unfold ofChar? at h
    split at h
    · next hc => cases h; exact hc
    · split at h
      · next hc => cases h; exact hc
      · cases h
  · rintro rfl
    exact ofChar?_char q

end Quote

end ScriptLexer
