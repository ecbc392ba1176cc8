/-
ScriptLexer.Location — places in a source text.

A `Location` is what a reader of a script sees: a line and a column, both
counted from 1. A `Mark` is what the lexer carries: the number of
characters read so far together with the location reached. Both move over
text one character at a time, so the location of any offset is a left fold
over the characters before it.
-/

namespace ScriptLexer

/-! ## Locations -/

/-- A line and a column, both counted from 1. -/
structure Location where
  line : Nat
  column : Nat
  deriving DecidableEq, Repr

namespace Location

/-- The columns that a tab takes. -/
def tabWidth : Nat := 4

/-- The location of the first character of a text. -/
def start : Location := ⟨1, 1⟩

instance : Inhabited Location := ⟨start⟩

/-- The location just past `c`, when `c` stands at `l`. A newline moves to
the first column of the next line, a tab takes `tabWidth` columns, and any
other character takes one. -/
def after (l : Location) (c : Char) : Location :=
  if c = '\n' then ⟨l.line + 1, 1⟩
  else if c = '\t' then ⟨l.line, l.column + tabWidth⟩
  else ⟨l.line, l.column + 1⟩

/-- The location just past `text`, when `text` begins at `l`. -/
def advance (l : Location) (text : List Char) : Location :=
  text.foldl after l

/-- The locations met on the way through `text`, the first one included. -/
def trail (l : Location) : List Char → List Location
  | [] => [l]
  | c :: cs => l :: (l.after c).trail cs

/-- The written form, as in `3:14`. -/
def display (l : Location) : String :=
  toString l.line ++ ":" ++ toString l.column

@[simp] theorem advance_nil (l : Location) : l.advance [] = l := rfl

@[simp] theorem advance_cons (l : Location) (c : Char) (cs : List Char) :
    l.advance (c :: cs) = (l.after c).advance cs := rfl

@[simp] theorem advance_append (l : Location) (a b : List Char) :
    l.advance (a ++ b) = (l.advance a).advance b :=
  List.foldl_append

/-! ## Reading order -/

/-- Locations are ordered as they are read: by line, then by column. -/
instance : LT Location where
  lt a b := a.line < b.line ∨ a.line = b.line ∧ a.column < b.column

instance (a b : Location) : Decidable (a < b) :=
  inferInstanceAs (Decidable (a.line < b.line ∨ a.line = b.line ∧ a.column < b.column))

instance : LE Location where
  le a b := a < b ∨ a = b

instance (a b : Location) : Decidable (a ≤ b) :=
  inferInstanceAs (Decidable (a < b ∨ a = b))

instance : Ord Location where
  compare a b := compareOfLessAndEq a b

/-- The locations in reading order. -/
def sort (ls : List Location) : List Location :=
  ls.mergeSort fun a b => decide (a ≤ b)

theorem lt_iff {a b : Location} :
    a < b ↔ a.line < b.line ∨ a.line = b.line ∧ a.column < b.column := Iff.rfl

end Location

/-! ## Marks -/

/-- How far into a text the lexer has come: the number of characters read,
and the location reached by reading them. -/
structure Mark where
  offset : Nat
  location : Location
  deriving DecidableEq, Repr

namespace Mark

/-- The mark before the first character. -/
def start : Mark := ⟨0, Location.start⟩

/-- The mark just past `text`, when `text` begins at `m`. -/
def advance (m : Mark) (text : List Char) : Mark :=
  ⟨m.offset + text.length, m.location.advance text⟩

@[simp] theorem offset_advance (m : Mark) (text : List Char) :
    (m.advance text).offset = m.offset + text.length := rfl

@[simp] theorem location_advance (m : Mark) (text : List Char) :
    (m.advance text).location = m.location.advance text := rfl

@[simp] theorem advance_nil (m : Mark) : m.advance [] = m := rfl

@[simp] theorem advance_append (m : Mark) (a b : List Char) :
    m.advance (a ++ b) = (m.advance a).advance b := by
  simp [advance, Nat.add_assoc]

end Mark

end ScriptLexer
