/-
ScriptLexer.Proofs.Quotation — every text is the meaning of a string.

A `Quotation` is a text and the mark to write it with. `Quotation.source` writes
it down: between two marks, with a backslash before every backslash and every such
mark. Any number of quotations may be written one right after the other, and are
read back one by one (`lex_quotations`), whatever their texts are.

The written text ends at the mark that is written last (`Quotation.body_encode`)
and stands for the text that was written (`Quotation.decode_encode`), so one
quotation is one token of the grammar. No character goes on with a string, so
nothing is needed between two of them.
-/
import Mathlib
import ScriptLexer.Proofs.Path

namespace ScriptLexer

/-! ## Writing -/

/-- A text, and the mark that encloses it where it is written. -/
structure Quotation where
  quote : Quote
  text : String
  deriving DecidableEq, Repr

namespace Quotation

/-- A character as it is written between two marks. -/
def encodeChar (q : Quote) (c : Char) : List Char :=
  if c = '\\' ∨ c = q.char then ['\\', c] else [c]

/-- A text as it is written between two marks. -/
def encode (q : Quote) (text : List Char) : List Char :=
  text.flatMap (encodeChar q)

/-- A quotation as it is written. -/
def source (p : Quotation) : List Char :=
  p.quote.char :: encode p.quote p.text.toList ++ [p.quote.char]

/-- Quotations written one right after the other. -/
def sources (ps : List Quotation) : String :=
  String.ofList (ps.flatMap source)

/-- The token of a quotation that is written at a mark. -/
def token (filename : String) (mark : Mark) (p : Quotation) : Token where
  lexeme := p.text
  kind := .string
  location := mark.location
  start := mark.offset
  filename := filename

/-! ## One quotation -/

variable {q : Quote}

@[simp] theorem encode_cons (c : Char) (cs : List Char) :
    encode q (c :: cs) = encodeChar q c ++ encode q cs := rfl

/-- No mark stands unescaped in what is written between the marks. -/
theorem body_encode (q : Quote) (cs : List Char) : q.Body (encode q cs) := by
  induction cs with
  | nil => exact .nil
  | cons c cs ih =>
    rw [encode_cons]
    unfold encodeChar
    split
    · exact .escape c ih
    · next h =>
      rw [not_or] at h
      exact .plain h.2 h.1 ih

/-- What is written between the marks stands for the text that was written. -/
theorem decode_encode (q : Quote) (cs : List Char) : Text.decode (encode q cs) = cs := by
  induction cs with
  | nil => rfl
  | cons c cs ih =>
    rw [encode_cons]
    unfold encodeChar
    split
    · next h =>
      have hself : Text.unescape c = c := by
        rcases h with rfl | rfl
        · rfl
        · exact q.unescape_char
      simp [hself, ih]
    · next h =>
      rw [not_or] at h
      rw [List.singleton_append, Text.decode_cons h.1, ih]

/-- A quotation is written as a string with its text. -/
theorem spells (p : Quotation) : Spells p.source ⟨.string, p.text.toList⟩ := by
  have hspells := Spells.string p.quote (body_encode p.quote p.text.toList)
  rw [decode_encode] at hspells
  exact hspells

/-! ## One after the other -/

/-- Quotations are read from any mark on, each at the mark behind those before it. -/
theorem exists_path (filename : String) (mark : Mark) (ps : List Quotation) :
    ∃ ms, Path .code mark ms .code none ∧ coveredText ms = ps.flatMap source ∧
      ms.filterMap (Move.token? filename) =
        ps.mapIdx fun i p => p.token filename (mark.advance ((ps.take i).flatMap source)) := by
  induction ps generalizing mark with
  | nil => exact ⟨[], .nil, rfl, rfl⟩
  | cons p ps ih =>
    obtain ⟨ms, hpath, htext, htokens⟩ := ih (mark.advance p.source)
    have htakes : Mode.code.Takes mark.location ⟨some ⟨.string, p.text.toList⟩, p.source, .code⟩
        ((coveredText ms).head?.or none) := .token p.spells (by simp)
    refine ⟨_, .cons htakes hpath, by simp [htext], ?_⟩
    have htoken : Move.token? filename
        ⟨mark, .code, ⟨some ⟨.string, p.text.toList⟩, p.source, .code⟩⟩ =
          some (p.token filename mark) := by
      simp [Move.token?, token]
    rw [List.filterMap_cons_some htoken, htokens, List.mapIdx_cons]
    simp

end Quotation

/-! ## Quotations read back -/

/-- **Every text can be quoted**: quotations written one right after the other have
one string token each, in order. Its lexeme is the text that was written, and it
starts where those before it end. -/
theorem lex_quotations (ps : List Quotation) (filename : String) :
    lex (Quotation.sources ps) filename = .ok (ps.mapIdx fun i p =>
      { lexeme := p.text
        kind := .string
        location := Location.start.advance (Quotation.sources (ps.take i)).toList
        start := (Quotation.sources (ps.take i)).length
        filename }) := by
  obtain ⟨ms, hpath, htext, htokens⟩ := Quotation.exists_path filename .start ps
  refine lex_eq_ok_iff.mpr ⟨ms, hpath, ?_, ?_⟩
  · rw [htext, Quotation.sources, String.toList_ofList]
  · rw [htokens]
    simp [Quotation.token, Quotation.sources, Mark.start]

/-- A backslash at the end, the other mark, a mark of its own, a newline, and
nothing at all. -/
example : lex (Quotation.sources [⟨.double, "'\\"⟩, ⟨.single, "'\n"⟩, ⟨.single, ""⟩]) "a.mcl" =
    .ok [⟨"'\\", .string, ⟨1, 1⟩, 0, "a.mcl"⟩, ⟨"'\n", .string, ⟨1, 6⟩, 5, "a.mcl"⟩,
      ⟨"", .string, ⟨2, 2⟩, 10, "a.mcl"⟩] := by
  cbv

end ScriptLexer
