/-
ScriptLexer.Text.Escape — backslash escapes in the body of a string.

Reading goes from left to right: a backslash and the character after it are
one unit and stand for one character, and every other character stands for
itself. A backslash with nothing after it is kept.
-/

namespace ScriptLexer.Text

/-- The character that `c` stands for after a backslash: six letters name
control characters, and any other character stands for itself. -/
def unescape (c : Char) : Char :=
  match c with
  | 'a' => '\x07'
  | 'b' => '\x08'
  | 'n' => '\n'
  | 'r' => '\r'
  | 't' => '\t'
  | '0' => '\x00'
  | c => c

/-- The text that a string body stands for. -/
def decode : List Char → List Char
  | [] => []
  | '\\' :: c :: cs => unescape c :: decode cs
  | c :: cs => c :: decode cs

@[simp] theorem decode_nil : decode [] = [] := rfl

@[simp] theorem decode_escape (c : Char) (cs : List Char) :
    decode ('\\' :: c :: cs) = unescape c :: decode cs := rfl

theorem decode_cons {c : Char} (h : c ≠ '\\') (cs : List Char) :
    decode (c :: cs) = c :: decode cs := by
  rw [decode.eq_def]
  split
  · next heq => cases heq
  · next heq => cases heq; exact absurd rfl h
  · next heq => cases heq; rfl

/-- A backslash that begins no escape has nothing after it. -/
theorem eq_nil_of_no_escape {c : Char} {cs : List Char}
    (h : ∀ d ds, c = '\\' → cs = d :: ds → False) (hc : c = '\\') : cs = [] := by
  cases cs with
  | nil => rfl
  | cons d ds => exact (h d ds hc rfl).elim

end ScriptLexer.Text
