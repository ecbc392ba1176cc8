/-
ScriptLexer.Mode — one step of the lexer.

The lexer is in ordinary code, in the literal text of an interpolated
string, or in an expression of one. `Mode.step` reads from a mode: it
covers some of the text, makes at most one lexeme of it, and says which
mode comes next, or it reports a fault. Interpolated strings do not nest:
inside an expression a `$` is a lexeme of its own and the string after it
is a plain one.
-/
import ScriptLexer.Recognizer
import ScriptLexer.Segment

namespace ScriptLexer

/-! ## Modes -/

/-- Where the lexer is relative to interpolated strings. `opened` is the
location of the `$`. -/
inductive Mode where
  /-- Ordinary code. -/
  | code
  /-- Literal text. The closing mark is known once the opening one is read. -/
  | literal (quote? : Option Quote) (opened : Location)
  /-- Code between braces. -/
  | expression (quote : Quote) (opened : Location)
  deriving DecidableEq, Repr

/-- A cause and the place where it is reported. -/
structure Fault where
  cause : Cause
  location : Location
  deriving DecidableEq, Repr

/-- What one step reads: the characters it covers, the lexeme it makes of
them, if any, and the mode after it. -/
structure Step where
  lexeme? : Option Lexeme
  covered : List Char
  next : Mode
  deriving DecidableEq, Repr

namespace Mode

/-- The fault of a text that ends in this mode. -/
def atEnd : Mode → Option Fault
  | code => none
  | literal _ opened | expression _ opened => some ⟨.unterminatedInterpolation, opened⟩

/-! ## Steps -/

/-- A step through code: a lexeme, or a `$`, after which the lexer is in
`dollar`. -/
def codeStep (read : Recognizer) (mode dollar : Mode) (here : Location) (c : Char)
    (cs : List Char) : Except Fault Step :=
  match read (c :: cs) with
  | .accepted lexeme covered => .ok ⟨some lexeme, covered, mode⟩
  | .refused cause => .error ⟨cause, here⟩
  | .declined =>
    if c = '$' then .ok ⟨some ⟨.interpolationStart, [c]⟩, [c], dollar⟩
    else .error ⟨.unexpectedCharacter c, here⟩

/-- A step through a segment of the text `cs`, with the mark that has just
been read, if any, before it. A segment without text makes no lexeme if an
expression follows it. -/
def segmentStep (q : Quote) (opened : Location) (mark cs : List Char) : Except Fault Step :=
  match Segment.scan q cs with
  | none => .error ⟨.unterminatedInterpolation, opened⟩
  | some s =>
    .ok {
      lexeme? := if s.opensExpression && s.raw.isEmpty then none else some ⟨.string, s.text⟩
      covered := mark ++ s.covered
      next := if s.opensExpression then expression q opened else literal (some q) opened }

/-- The step that reads from `c :: cs`, where `c` stands at `here`. Code is
read by `read`. -/
def step (read : Recognizer) (mode : Mode) (here : Location) (c : Char) (cs : List Char) :
    Except Fault Step :=
  match mode with
  | code => codeStep read code (literal none here) here c cs
  | literal none opened =>
    match Quote.ofChar? c with
    | none => .error ⟨.invalidTerminator c, here⟩
    | some q => segmentStep q opened [c] cs
  | literal (some q) opened =>
    if c = q.char then .ok ⟨some ⟨.interpolationEnd, [c]⟩, [c], code⟩
    else segmentStep q opened [] (c :: cs)
  | expression q opened =>
    if c = '\x7d' ∧ cs.head? ≠ some '\x7d' then .ok ⟨none, [c], literal (some q) opened⟩
    else codeStep read (expression q opened) (expression q opened) here c cs

end Mode

end ScriptLexer
