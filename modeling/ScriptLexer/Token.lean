/-
ScriptLexer.Token — what a script is cut into.

A token keeps its kind, the text it stands for, and where it begins. For
strings that text is the meaning of the literal, without its quotation
marks and with its escapes read, so it need not occur in the source.
-/
import ScriptLexer.Location
import ScriptLexer.Text.Quoted

namespace ScriptLexer

/-! ## Kinds -/

/-- The kinds of token. The last is the kind of a token that has not been
given one; the lexer never produces it. -/
inductive TokenKind where
  | operator
  | identifier
  | punctuation
  | comment
  | string
  | number
  | whitespace
  | interpolationStart
  | interpolationEnd
  | nil
  deriving DecidableEq, Repr

namespace TokenKind

instance : Inhabited TokenKind := ⟨nil⟩

/-- The name of a kind in listings. -/
def name : TokenKind → String
  | operator => "Operator"
  | identifier => "Identifier"
  | punctuation => "Punctuation"
  | comment => "Comment"
  | string => "String"
  | number => "Number"
  | whitespace => "Whitespace"
  | interpolationStart => "InterpolationStart"
  | interpolationEnd => "InterpolationEnd"
  | nil => "Nil"

/-- The kinds that carry no meaning for a parser. -/
def isTrivia : TokenKind → Bool
  | whitespace | comment => true
  | _ => false

end TokenKind

/-! ## Tokens -/

/-- A kind together with the text that a token of it stands for. -/
structure Lexeme where
  kind : TokenKind
  text : List Char
  deriving DecidableEq, Repr

/-- A token of a named file. `start` counts the characters before it. -/
structure Token where
  lexeme : String
  kind : TokenKind
  location : Location
  start : Nat
  filename : String
  deriving DecidableEq, Repr

namespace Token

/-- Whitespace and comments. -/
def isTrivia (t : Token) : Bool :=
  t.kind.isTrivia

/-- The tokens that a parser sees. -/
def significant (ts : List Token) : List Token :=
  ts.filter fun t => !t.isTrivia

/-- The written form, as in `Number("1.5") at a.mcl:3:14`. -/
def display (t : Token) : String :=
  t.kind.name ++ "(" ++ Text.quoted t.lexeme ++ ") at " ++ t.filename ++ ":"
    ++ t.location.display

end Token

end ScriptLexer
