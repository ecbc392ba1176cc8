/-
ScriptLexer.Listing.Table — tokens as lines of text.

Each token takes one line: where it begins, its kind, and its lexeme in
double quotes. The first two are filled up with blanks to a fixed width and
are never cut.
-/
import ScriptLexer.Token

namespace ScriptLexer.Listing

/-- The width of the column of locations. -/
def locationWidth : Nat := 8

/-- The width of the column of kinds. -/
def kindWidth : Nat := 18

/-- The line of a token, with the newline that ends it. -/
def row (t : Token) : List Char :=
  t.location.display.toList.rightpad locationWidth ' ' ++ ' '
    :: t.kind.name.toList.rightpad kindWidth ' ' ++ ' '
    :: (Text.quoted t.lexeme).toList ++ ['\n']

/-- The lines of the tokens. -/
def table (ts : List Token) : String :=
  String.ofList (ts.flatMap row)

end ScriptLexer.Listing
