/-
ScriptLexer.Segment — the literal text of an interpolated string.

A segment is the text between two places where something else begins: the
opening mark or the end of an expression before it, the closing mark or
the `{` of an expression after it. Inside, a backslash and the character
after it go together, a doubled brace is a single brace, and a lone `}` is
itself.
-/
import ScriptLexer.CharClass
import ScriptLexer.Text.Escape

namespace ScriptLexer

/-- Literal text as it is written, and whether a `{` follows it. If none
does, the closing mark follows. -/
structure Segment where
  raw : List Char
  opensExpression : Bool
  deriving DecidableEq, Repr

namespace Segment

/-- The segment with `cs` written before it. -/
def before (cs : List Char) (s : Segment) : Segment :=
  { s with raw := cs ++ s.raw }

/-- The segment at the beginning of a text in a string that `q` closes, or
none if the text ends first. -/
def scan (q : Quote) : List Char → Option Segment
  | [] => none
  | '\\' :: c :: cs => (scan q cs).map (before ['\\', c])
  | '\x7b' :: '\x7b' :: cs => (scan q cs).map (before ['\x7b', '\x7b'])
  | '\x7d' :: '\x7d' :: cs => (scan q cs).map (before ['\x7d', '\x7d'])
  | c :: cs =>
    if c = q.char then some ⟨[], false⟩
    else if c = '\x7b' then some ⟨[], true⟩
    else (scan q cs).map (before [c])

/-- Literal text with each doubled brace written once. Escapes are left as
they are, so that a brace after a backslash is not taken for half of a
doubled one. -/
def undouble : List Char → List Char
  | [] => []
  | '\\' :: c :: cs => '\\' :: c :: undouble cs
  | '\x7b' :: '\x7b' :: cs => '\x7b' :: undouble cs
  | '\x7d' :: '\x7d' :: cs => '\x7d' :: undouble cs
  | c :: cs => c :: undouble cs

/-- What the literal text stands for. -/
def text (s : Segment) : List Char :=
  Text.decode (undouble s.raw)

/-- The characters of the segment, with the `{` that follows it. -/
def covered (s : Segment) : List Char :=
  if s.opensExpression then s.raw ++ ['\x7b'] else s.raw

/-! ## One unit at a time -/

@[simp] theorem undouble_nil : undouble [] = [] := rfl

@[simp] theorem undouble_escape (c : Char) (cs : List Char) :
    undouble ('\\' :: c :: cs) = '\\' :: c :: undouble cs := rfl

@[simp] theorem undouble_openPair (cs : List Char) :
    undouble ('\x7b' :: '\x7b' :: cs) = '\x7b' :: undouble cs := rfl

@[simp] theorem undouble_closePair (cs : List Char) :
    undouble ('\x7d' :: '\x7d' :: cs) = '\x7d' :: undouble cs := rfl

theorem undouble_plain {c : Char} (cs : List Char) (hb : c ≠ '\\') (ho : c ≠ '\x7b')
    (hc : c ≠ '\x7d') : undouble (c :: cs) = c :: undouble cs :=
  undouble.eq_5 _ _ (fun _ _ e => absurd e hb) (fun _ e => absurd e ho)
    (fun _ e => absurd e hc)

@[simp] theorem scan_nil (q : Quote) : scan q [] = none := rfl

@[simp] theorem scan_escape (q : Quote) (c : Char) (cs : List Char) :
    scan q ('\\' :: c :: cs) = (scan q cs).map (before ['\\', c]) := rfl

@[simp] theorem scan_openPair (q : Quote) (cs : List Char) :
    scan q ('\x7b' :: '\x7b' :: cs) = (scan q cs).map (before ['\x7b', '\x7b']) := rfl

@[simp] theorem scan_closePair (q : Quote) (cs : List Char) :
    scan q ('\x7d' :: '\x7d' :: cs) = (scan q cs).map (before ['\x7d', '\x7d']) := rfl

@[simp] theorem scan_mark (q : Quote) (cs : List Char) :
    scan q (q.char :: cs) = some ⟨[], false⟩ := by
  cases q <;> simp [scan, Quote.char]

/-- A `{` that is not doubled begins an expression. -/
theorem scan_open (q : Quote) {cs : List Char} (h : cs.head? ≠ some '\x7b') :
    scan q ('\x7b' :: cs) = some ⟨[], true⟩ := by
  cases cs with
  | nil => cases q <;> simp [scan, Quote.char]
  | cons d ds =>
    have hd : d ≠ '\x7b' := fun e => h (by simp [e])
    rw [scan.eq_5 _ _ _ (by simp) (by simpa using fun e => absurd e hd) (by simp)]
    cases q <;> simp [Quote.char]

/-- A `}` that is not doubled is itself. -/
theorem scan_close (q : Quote) {cs : List Char} (h : cs.head? ≠ some '\x7d') :
    scan q ('\x7d' :: cs) = (scan q cs).map (before ['\x7d']) := by
  cases cs with
  | nil => cases q <;> simp [scan, Quote.char]
  | cons d ds =>
    have hd : d ≠ '\x7d' := fun e => h (by simp [e])
    rw [scan.eq_5 _ _ _ (by simp) (by simp) (by simpa using fun e => absurd e hd)]
    cases q <;> simp [Quote.char]

/-- Every other character is itself. -/
theorem scan_plain (q : Quote) {c : Char} (cs : List Char) (hq : c ≠ q.char)
    (hb : c ≠ '\\') (ho : c ≠ '\x7b') (hc : c ≠ '\x7d') :
    scan q (c :: cs) = (scan q cs).map (before [c]) := by
  rw [scan.eq_5 _ _ _ (fun _ _ e => absurd e hb) (fun _ e => absurd e ho)
    (fun _ e => absurd e hc)]
  simp [hq, ho]

end Segment

end ScriptLexer
