/-
ScriptLexer.Proofs.Lossless — no character of a script is lost.

The tokens of a text begin one after another inside it, the first of them
at its first character, so their spans are the whole text again
(`lex_lossless`). The steps that make no token do no harm: a step makes
none only inside an interpolated string, after the token of its `$`, and a
span takes in all that follows its token. A round trip on the command line
therefore never reports a mismatch.
-/
import Mathlib
import ScriptLexer.Command.FileReport
import ScriptLexer.Proofs.Path
import ScriptLexer.Proofs.Span

namespace ScriptLexer

open Command

/-! ## Tokens and their moves -/

theorem Move.token?_eq_some_iff {filename : String} {m : Move} {t : Token} :
    m.token? filename = some t ↔ ∃ l, m.step.lexeme? = some l ∧
      t = { lexeme := String.ofList l.text, kind := l.kind, location := m.mark.location
            start := m.mark.offset, filename } := by
  rw [Move.token?, Option.map_eq_some_iff]
  exact exists_congr fun l => and_congr_right fun _ => eq_comm

/-- A token starts where its move begins. -/
theorem Move.start_of_token? {filename : String} {m : Move} {t : Token}
    (h : m.token? filename = some t) : t.start = m.mark.offset := by
  obtain ⟨l, -, rfl⟩ := Move.token?_eq_some_iff.mp h
  rfl

/-- In ordinary code every step makes a token. -/
theorem Mode.Takes.lexeme?_isSome {here : Location} {s : Step} {next? : Option Char}
    (h : Mode.code.Takes here s next?) : s.lexeme?.isSome = true := by
  cases h <;> rfl

namespace Path

variable {mode mode' : Mode} {mark : Mark} {ms : List Move} {next? : Option Char}

/-- The tokens of a path start one after another. -/
theorem pairwise_start (h : Path mode mark ms mode' next?) (filename : String) :
    (ms.filterMap (Move.token? filename)).Pairwise fun a b => a.start < b.start := by
  rw [List.pairwise_filterMap]
  refine h.pairwise_offset.imp ?_
  intro a b hab t ht u hu
  rw [Move.start_of_token? ht, Move.start_of_token? hu]
  exact hab

/-- The tokens of a path start inside what it covers. -/
theorem start_lt (h : Path mode mark ms mode' next?) {filename : String} :
    ∀ t ∈ ms.filterMap (Move.token? filename),
      t.start < mark.offset + (coveredText ms).length := by
  intro t ht
  obtain ⟨m, hm, htoken⟩ := List.mem_filterMap.mp ht
  rw [Move.start_of_token? htoken]
  exact (h.offset_bounds m hm).2

/-- The first token of a path in ordinary code starts where the path does. -/
theorem exists_first_token (h : Path .code mark ms mode' next?) (hne : ms ≠ [])
    (filename : String) :
    ∃ t ts, ms.filterMap (Move.token? filename) = t :: ts ∧ t.start = mark.offset := by
  cases h with
  | nil => exact absurd rfl hne
  | @cons _ _ _ s ms _ htakes _ =>
    obtain ⟨l, hl⟩ := Option.isSome_iff_exists.mp htakes.lexeme?_isSome
    obtain ⟨t, ht⟩ : ∃ t, Move.token? filename ⟨mark, .code, s⟩ = some t :=
      ⟨_, Move.token?_eq_some_iff.mpr ⟨l, hl, rfl⟩⟩
    exact ⟨t, _, List.filterMap_cons_some ht, Move.start_of_token? ht⟩

end Path

/-! ## Lossless lexing -/

section

variable {text filename : String} {ts : List Token}

/-- A text without tokens is empty, and the first token of any other begins it. -/
theorem first_token_of_lex (h : lex text filename = .ok ts) :
    (ts = [] ∧ text = "") ∨ ∃ t ts', ts = t :: ts' ∧ t.start = 0 := by
  obtain ⟨ms, hpath, htext, rfl⟩ := lex_eq_ok_iff.mp h
  by_cases hms : ms = []
  · rw [hms, coveredText_nil] at htext
    exact .inl ⟨by rw [hms]; rfl, by simpa using htext⟩
  · exact .inr (hpath.exists_first_token hms filename)

theorem pairwise_start_of_lex (h : lex text filename = .ok ts) :
    ts.Pairwise fun a b => a.start < b.start := by
  obtain ⟨ms, hpath, -, rfl⟩ := lex_eq_ok_iff.mp h
  exact hpath.pairwise_start filename

/-- The spans of the tokens of a text are the text. -/
theorem reconstruct_of_lex (h : lex text filename = .ok ts) : reconstruct text ts = text := by
  have hsorted := pairwise_start_of_lex h
  rcases first_token_of_lex h with ⟨rfl, rfl⟩ | ⟨t, ts', rfl, ht⟩
  · rfl
  · rw [reconstruct_eq_drop text (hsorted.imp Nat.le_of_lt), ht]
    simp

end

/-- **Nothing is lost**: the tokens of a text start one after another inside
it, the first one at its beginning, and their spans are the text. So there
are at most as many tokens as characters, and a round trip is never a
mismatch, whatever the file holds. -/
theorem lex_lossless (text filename : String) :
    (∀ ts, lex text filename = .ok ts →
      ts.Pairwise (fun a b => a.start < b.start) ∧
      (∀ t ∈ ts, t.start < text.length) ∧
      (∀ t ∈ ts.head?, t.start = 0) ∧
      (text ≠ "" → ts ≠ []) ∧
      reconstruct text ts = text ∧
      ts.length ≤ text.length) ∧
    ∀ (json : List Token → Except String String) (r : Request) (contents : ByteArray),
      r.task = .roundtrip → r.reportFile json filename (.ok contents) =
        match String.fromUTF8? contents with
        | none => .failure (filename ++ ": stream did not contain valid UTF-8")
        | some read => r.logReport filename read ++
          match lex read filename with
          | .error e => .failure e.display
          | .ok _ => .noted (filename ++ ": round-trip ok") := by
  refine ⟨?_, ?_⟩
  · intro ts h
    refine ⟨pairwise_start_of_lex h, ?_, ?_, ?_, reconstruct_of_lex h, ?_⟩
    · obtain ⟨ms, hpath, htext, rfl⟩ := lex_eq_ok_iff.mp h
      intro t ht
      have hlt := hpath.start_lt t ht
      rw [← String.length_toList, htext]
      simpa [Mark.start] using hlt
    · rcases first_token_of_lex h with ⟨rfl, -⟩ | ⟨t, ts', rfl, ht⟩
      · simp
      · simpa using ht
    · intro hne
      rcases first_token_of_lex h with ⟨-, hempty⟩ | ⟨t, ts', rfl, -⟩
      · exact absurd hempty hne
      · simp
    · obtain ⟨ms, hpath, htext, rfl⟩ := lex_eq_ok_iff.mp h
      rw [← String.length_toList, htext]
      exact Nat.le_trans (List.length_filterMap_le _ _) hpath.length_le
  · intro json r contents htask
    rw [Request.reportFile]
    cases String.fromUTF8? contents with
    | none => rfl
    | some read =>
      simp only [htask, Task.reportText]
      cases h : lex read filename with
      | error e => rfl
      | ok ts => simp [Task.reportTokens, reconstruct_of_lex h]

/-- Marks, an empty expression and a string with an escaped mark in the next
expression: twelve characters and four tokens. -/
theorem lex_lossless_nested : ∃ ts, lex "é$\"\x7b\x7d\x7b'\\''\x7d\"" "a.mcl" = .ok ts ∧
    ts.map Token.start = [0, 1, 6, 11] ∧
    reconstruct "é$\"\x7b\x7d\x7b'\\''\x7d\"" ts = "é$\"\x7b\x7d\x7b'\\''\x7d\"" := by
  have h : lex "é$\"\x7b\x7d\x7b'\\''\x7d\"" "a.mcl" = .ok
      [⟨"é", .identifier, ⟨1, 1⟩, 0, "a.mcl"⟩, ⟨"$", .interpolationStart, ⟨1, 2⟩, 1, "a.mcl"⟩,
        ⟨"'", .string, ⟨1, 7⟩, 6, "a.mcl"⟩, ⟨"\"", .interpolationEnd, ⟨1, 12⟩, 11, "a.mcl"⟩] := by
    cbv
  exact ⟨_, h, rfl, ((lex_lossless _ _).1 _ h).2.2.2.2.1⟩

end ScriptLexer
