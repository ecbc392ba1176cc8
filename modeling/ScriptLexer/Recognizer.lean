/-
ScriptLexer.Recognizer — the tokens of ordinary code.

A recognizer looks at the text in front of the lexer and declines it, or
accepts some of it as a lexeme, or refuses it for a cause. There are seven,
one for each kind of token that stands in ordinary code; a list of them is
a recognizer again, which asks each in turn.
-/
import ScriptLexer.CharClass
import ScriptLexer.LexError
import ScriptLexer.Text.Escape
import ScriptLexer.Token

namespace ScriptLexer

/-! ## Readings -/

/-- What a recognizer says of the text in front of it. A text is accepted
together with the characters that the lexeme covers. -/
inductive Reading where
  | declined
  | accepted (lexeme : Lexeme) (covered : List Char)
  | refused (cause : Cause)
  deriving DecidableEq, Repr

/-- A reader of one token at the beginning of a text. -/
abbrev Recognizer := List Char → Reading

/-- Acceptance of a lexeme that is the very text it covers. -/
def Reading.verbatim (kind : TokenKind) (covered : List Char) : Reading :=
  .accepted ⟨kind, covered⟩ covered

/-- The characters up to the first unescaped `q`, or none if there is no
such `q`. A backslash and the character after it are passed together. -/
def Quote.body? (q : Quote) : List Char → Option (List Char)
  | [] => none
  | '\\' :: c :: cs => (q.body? cs).map fun body => '\\' :: c :: body
  | c :: cs => if c = q.char then some [] else (q.body? cs).map (c :: ·)

namespace Quote

@[simp] theorem body?_nil (q : Quote) : q.body? [] = none := rfl

@[simp] theorem body?_escape (q : Quote) (c : Char) (cs : List Char) :
    q.body? ('\\' :: c :: cs) = (q.body? cs).map fun body => '\\' :: c :: body := rfl

@[simp] theorem body?_mark (q : Quote) (cs : List Char) :
    q.body? (q.char :: cs) = some [] := by
  cases q <;> simp [body?, char]

theorem body?_plain (q : Quote) {c : Char} (cs : List Char) (hq : c ≠ q.char)
    (hb : c ≠ '\\') : q.body? (c :: cs) = (q.body? cs).map (c :: ·) := by
  rw [body?.eq_3 _ _ _ (fun _ _ e => absurd e hb), if_neg hq]

end Quote

namespace Recognizer

open Reading (verbatim)

/-! ## The seven recognizers -/

/-- A run of whitespace, as long as it goes. -/
def whitespace : Recognizer := fun cs =>
  match cs.takeWhile isSpace with
  | [] => .declined
  | run => verbatim .whitespace run

/-- A string in quotation marks. Its lexeme is what the body stands for. -/
def string : Recognizer
  | [] => .declined
  | c :: cs =>
    match Quote.ofChar? c with
    | none => .declined
    | some q =>
      match q.body? cs with
      | none => .refused (.unterminatedString c)
      | some body => .accepted ⟨.string, Text.decode body⟩ (c :: body ++ [c])

/-- A decimal point and the digits after it, of which there may be none. -/
def fraction : List Char → List Char
  | '.' :: cs => '.' :: cs.takeWhile Char.isDigit
  | _ => []

/-- Digits, then at most one decimal point with its digits. -/
def number : Recognizer := fun cs =>
  match cs.takeWhile Char.isDigit with
  | [] => .declined
  | whole => verbatim .number (whole ++ fraction (cs.dropWhile Char.isDigit))

/-- An operator character, with a following `=` taken in, or `=>`. The two
openings of a comment are no operators. -/
def operator : Recognizer
  | '/' :: '/' :: _ => .declined
  | '/' :: '*' :: _ => .declined
  | '=' :: '>' :: _ => verbatim .operator ['=', '>']
  | c :: '=' :: _ => if isOperator c then verbatim .operator [c, '='] else .declined
  | c :: _ => if isOperator c then verbatim .operator [c] else .declined
  | [] => .declined

/-- A word: its first character, then every character that continues it. -/
def identifier : Recognizer
  | [] => .declined
  | c :: cs =>
    if isWordStart c then verbatim .identifier (c :: cs.takeWhile isWordPart) else .declined

/-- A single punctuation character. -/
def punctuation : Recognizer
  | [] => .declined
  | c :: _ => if isPunctuation c then verbatim .punctuation [c] else .declined

/-- The text through the first newline, or all of it. -/
def throughNewline (cs : List Char) : List Char :=
  cs.takeWhile (· != '\n') ++ (cs.dropWhile (· != '\n')).take 1

/-- The text through the first `*/`, or all of it. -/
def throughClose : List Char → List Char
  | [] => []
  | '*' :: '/' :: _ => ['*', '/']
  | c :: cs => c :: throughClose cs

/-- A line comment with its newline, or a block comment. One that is never
closed runs to the end of the text. -/
def comment : Recognizer
  | '/' :: '/' :: cs => verbatim .comment ('/' :: '/' :: throughNewline cs)
  | '/' :: '*' :: cs => verbatim .comment ('/' :: '*' :: throughClose cs)
  | _ => .declined

/-! ## Several recognizers -/

/-- The reading of the first recognizer that does not decline. -/
def firstOf : List Recognizer → Recognizer
  | [], _ => .declined
  | r :: rs, cs =>
    match r cs with
    | .declined => firstOf rs cs
    | reading => reading

/-- The recognizers of ordinary code, in the order in which they are asked. -/
def ordinary : List Recognizer :=
  [whitespace, string, number, operator, identifier, punctuation, comment]

/-- The recognizer of ordinary code. -/
def code : Recognizer :=
  firstOf ordinary

end Recognizer

end ScriptLexer
