/-
ScriptLexer.Text.Quoted — text shown between two marks on one line.

A listing shows a lexeme as a quoted text and an error shows a character as
a quoted character. Both write the mark, the backslash and the four common
controls with a backslash, write a character that would not show by its
code point in hexadecimal, and leave every other character as it is.
-/
import ScriptLexer.Unicode.Invisible

namespace ScriptLexer.Text

/-- A code point in hexadecimal digits, lower case, with no leading zero. -/
def hexDigits (c : Char) : List Char :=
  Nat.toDigits 16 c.toNat

/-- How `c` is shown between two `mark`s. -/
def visibleForm (mark c : Char) : List Char :=
  if c = '\x00' then ['\\', '0']
  else if c = '\t' then ['\\', 't']
  else if c = '\n' then ['\\', 'n']
  else if c = '\r' then ['\\', 'r']
  else if c = '\\' ∨ c = mark then ['\\', c]
  else if Unicode.isInvisible c then ['\\', 'u', '\x7b'] ++ hexDigits c ++ ['\x7d']
  else [c]

/-- The characters that are shown as they are: all but the mark, the backslash and
those in the table of what does not show. -/
theorem visibleForm_eq_self_iff {mark c : Char} : visibleForm mark c = [c] ↔
    c ≠ mark ∧ c ≠ '\\' ∧
      ∀ r ∈ Unicode.invisibleRanges, ¬ (r.first ≤ c.toNat ∧ c.toNat ≤ r.last) := by
  have hinvisible : (∀ r ∈ Unicode.invisibleRanges, ¬ (r.first ≤ c.toNat ∧ c.toNat ≤ r.last)) ↔
      ¬ Unicode.isInvisible c = true := by
    rw [Unicode.isInvisible_iff]
    simp
  rw [hinvisible]
  unfold visibleForm
  -- the four controls are in the table as well, so each of them fails on both sides
  split
  · next h => subst h; simp [show Unicode.isInvisible '\x00' = true by decide]
  split
  · next h => subst h; simp [show Unicode.isInvisible '\t' = true by decide]
  split
  · next h => subst h; simp [show Unicode.isInvisible '\n' = true by decide]
  split
  · next h => subst h; simp [show Unicode.isInvisible '\r' = true by decide]
  split
  · next h => rcases h with rfl | rfl <;> simp
  split
  · next h => simp [h]
  · next hmark h =>
    exact iff_of_true rfl ⟨fun hc => hmark (.inr hc), fun hc => hmark (.inl hc), h⟩

/-- A text shown between two `mark`s. -/
def enclose (mark : Char) (text : List Char) : List Char :=
  mark :: text.flatMap (visibleForm mark) ++ [mark]

/-- A text in double quotes. -/
def quoted (text : String) : String :=
  String.ofList (enclose '"' text.toList)

/-- A character in single quotes. -/
def quotedChar (c : Char) : String :=
  String.ofList (enclose '\'' [c])

end ScriptLexer.Text
