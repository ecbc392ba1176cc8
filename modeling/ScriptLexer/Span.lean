/-
ScriptLexer.Span — the part of a text that belongs to each token.

A token's span runs from its start to the start of the next token, and the
last one's to the end of the text, so characters between two tokens go with
the first. Offsets past the end count as the end, and a span that would end
before it begins is empty, so spans are defined for any list of tokens.
-/
import ScriptLexer.Token

namespace ScriptLexer

/-- Where the span of each token ends, in a text of `size` characters. -/
def spanEnds (size : Nat) (ts : List Token) : List Nat :=
  (ts.drop 1).map Token.start ++ [size]

/-- The span of each token. -/
def rawSpans (text : String) (ts : List Token) : List String :=
  let chars := text.toList.toArray
  List.zipWith (fun t stop => String.ofList (chars.extract t.start stop).toList)
    ts (spanEnds chars.size ts)

/-- The spans put together again. -/
def reconstruct (text : String) (ts : List Token) : String :=
  String.join (rawSpans text ts)

end ScriptLexer
