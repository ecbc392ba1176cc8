/-
ScriptLexer.Listing.Json — tokens as a JSON array.

The array is laid out over lines, two blanks for each level, with the
fields of a token in the order of its structure. In strings only the
characters that JSON does not allow to stand for themselves are escaped.
-/
import ScriptLexer.Token

namespace ScriptLexer.Listing

/-! ## Strings -/

/-- How a character is written in a JSON string. -/
def jsonEscape (c : Char) : List Char :=
  if c = '"' ∨ c = '\\' then ['\\', c]
  else if c = '\x08' then ['\\', 'b']
  else if c = '\t' then ['\\', 't']
  else if c = '\n' then ['\\', 'n']
  else if c = '\x0c' then ['\\', 'f']
  else if c = '\r' then ['\\', 'r']
  else if c.toNat < 0x20 then
    ['\\', 'u', '0', '0', Nat.digitChar (c.toNat / 16), Nat.digitChar (c.toNat % 16)]
  else [c]

/-- A JSON string. -/
def jsonString (text : String) : String :=
  String.ofList ('"' :: text.toList.flatMap jsonEscape ++ ['"'])

/-! ## Tokens -/

/-- The lines of an object of the array, without the newline after it. -/
def jsonToken (t : Token) : String :=
  "  \x7b\n"
    ++ "    \"lexeme\": " ++ jsonString t.lexeme ++ ",\n"
    ++ "    \"kind\": " ++ jsonString t.kind.name ++ ",\n"
    ++ "    \"location\": \x7b\n"
    ++ "      \"line\": " ++ toString t.location.line ++ ",\n"
    ++ "      \"column\": " ++ toString t.location.column ++ "\n"
    ++ "    \x7d,\n"
    ++ "    \"start\": " ++ toString t.start ++ ",\n"
    ++ "    \"filename\": " ++ jsonString t.filename ++ "\n"
    ++ "  \x7d"

/-- The array of the tokens. -/
def json (ts : List Token) : String :=
  if ts.isEmpty then "[]"
  else "[\n" ++ String.intercalate ",\n" (ts.map jsonToken) ++ "\n]"

end ScriptLexer.Listing
