/-
ScriptLexer.Proofs.Composition — a text made of two.

The run over `a ++ b` comes to the end of `a` in ordinary code exactly if `a`
has tokens and the first character of `b` does not go on with the last of
them (`Apart`). From there on it is the run over `b`, moved to where `b`
begins. `lex_append` says both.

The first half is about the last step of a path only. A step back into
ordinary code makes a token (`Mode.Takes.of_next_code`), and of what comes
after it the step asks no more than that it does not fuse with that token.
The second half is relocation.
-/
import Mathlib
import ScriptLexer.Proofs.Relocation

namespace ScriptLexer

/-! ## The junction -/

/-- Whether `c` right after a token goes on with it. -/
def Token.Fuses (t : Token) (c : Char) : Prop :=
  (⟨t.kind, t.lexeme.toList⟩ : Lexeme).Fuses c

instance (t : Token) (c : Char) : Decidable (t.Fuses c) :=
  inferInstanceAs (Decidable (Lexeme.Fuses _ _))

/-- The last token of `ts` ends where `text` begins. This is so if there is
no token or no text. -/
def Apart (ts : List Token) (text : String) : Prop :=
  ∀ t ∈ ts.getLast?, ∀ c ∈ text.toList.head?, ¬ t.Fuses c

theorem Move.fuses_of_token? {filename : String} {m : Move} {t : Token} {l : Lexeme}
    (h : m.token? filename = some t) (hl : m.step.lexeme? = some l) (c : Char) :
    t.Fuses c ↔ l.Fuses c := by
  rw [Move.token?, hl] at h
  cases h
  rw [Token.Fuses, String.toList_ofList]

/-- A step back into ordinary code makes a token, and may be taken before
whatever does not fuse with it. -/
theorem Mode.Takes.of_next_code {mode : Mode} {here : Location} {s : Step} {next? : Option Char}
    (h : mode.Takes here s next?) (hcode : s.next = .code) :
    ∃ l, s.lexeme? = some l ∧
      ∀ other?, mode.Takes here s other? ↔ ∀ c ∈ other?, ¬ l.Fuses c := by
  cases h with
  | @token _ w l _ hspells _ =>
    refine ⟨l, rfl, ?_⟩
    intro other?
    refine ⟨?_, .token hspells⟩
    intro h
    cases h with
    | token _ happart => exact happart
  | @finish q opened _ _ =>
    refine ⟨⟨.interpolationEnd, [q.char]⟩, rfl, ?_⟩
    intro other?
    refine ⟨?_, fun _ => .finish⟩
    intro _ c _
    simp [Lexeme.Fuses]
  | _ => cases hcode

namespace Path

variable {mark : Mark} {ms : List Move} {next? : Option Char}

/-- The last move of a path back to ordinary code makes the last token, which
says where else the move may be made. -/
theorem exists_last_token {m : Move} (h : Path .code mark (ms ++ [m]) .code next?)
    (filename : String) :
    ∃ t, ((ms ++ [m]).filterMap (Move.token? filename)).getLast? = some t ∧
      ∀ other?, m.mode.Takes m.mark.location m.step other? ↔ ∀ c ∈ other?, ¬ t.Fuses c := by
  obtain ⟨-, -, htakes, hcode⟩ := h.of_concat
  obtain ⟨l, hl, hiff⟩ := htakes.of_next_code hcode
  obtain ⟨t, ht⟩ : ∃ t, m.token? filename = some t := by simp [Move.token?, hl]
  refine ⟨t, by simp [ht], ?_⟩
  intro other?
  rw [hiff]
  simp only [Move.fuses_of_token? ht hl]

/-- A path from ordinary code back to it leads on to `next?` if its last
token does. -/
theorem code_iff (filename : String) :
    Path .code mark ms .code next? ↔ Path .code mark ms .code none ∧
      ∀ t ∈ (ms.filterMap (Move.token? filename)).getLast?, ∀ c ∈ next?, ¬ t.Fuses c := by
  rcases List.eq_nil_or_concat ms with rfl | ⟨ms, m, rfl⟩
  · exact ⟨fun _ => ⟨.nil, by simp⟩, fun _ => .nil⟩
  rw [List.concat_eq_append]
  constructor
  · intro h
    obtain ⟨t, ht, hiff⟩ := h.exists_last_token filename
    obtain ⟨-, -, htakes, -⟩ := h.of_concat
    refine ⟨h.of_getLast? (by simpa using (hiff none).mpr (by simp)), ?_⟩
    rw [ht]
    intro u hu
    cases hu
    exact (hiff next?).mp htakes
  · intro h
    obtain ⟨h, happart⟩ := h
    obtain ⟨t, ht, hiff⟩ := h.exists_last_token filename
    exact h.of_getLast? (by simpa using (hiff next?).mpr (happart t ht))

end Path

/-! ## The law -/

/-- Moves made before a run add their tokens to it. -/
theorem Run.outcome_append (filename : String) (ms : List Move) (r : Run) :
    outcome filename { moves := ms ++ r.moves, fault? := r.fault? } =
      match r.outcome filename with
      | .ok ts => .ok (ms.filterMap (Move.token? filename) ++ ts)
      | .error e => .error e := by
  obtain ⟨ms', fault?⟩ := r
  cases fault? with
  | none => simp [outcome, tokens]
  | some fault => simp [outcome]

/-- **Composition**: between two texts there is a boundary in ordinary code
if the first has tokens and the second does not go on with the last of them.
The tokens of both together are then those of the first and those of the
second, or the error of the second, moved to where the second begins. -/
theorem lex_append (a b filename : String) :
    (Boundary (a ++ b) a.length .code ↔ ∃ ta, lex a filename = .ok ta ∧ Apart ta b) ∧
    ∀ ta, lex a filename = .ok ta → Apart ta b →
      lex (a ++ b) filename =
        match lex b filename with
        | .ok tb => .ok (ta ++ tb.map (Token.relocate (Mark.start.advance a.toList)))
        | .error e => .error (e.relocate (Location.start.advance a.toList)) := by
  refine ⟨⟨?_, ?_⟩, ?_⟩
  · intro hboundary
    obtain ⟨ms, r, htext, hpath, hlength⟩ := boundary_iff.mp hboundary
    rw [String.toList_append] at htext
    obtain ⟨ha, hb⟩ := List.append_inj htext (by rw [hlength, String.length_toList])
    rw [← hb, Path.code_iff filename] at hpath
    exact ⟨_, lex_eq_ok_iff.mpr ⟨ms, hpath.1, ha, rfl⟩, hpath.2⟩
  · intro h
    obtain ⟨ta, hlex, happart⟩ := h
    obtain ⟨ms, hpath, ha, rfl⟩ := lex_eq_ok_iff.mp hlex
    refine boundary_iff.mpr ⟨ms, b.toList, ?_, (Path.code_iff filename).mpr ⟨hpath, happart⟩, ?_⟩
    · rw [String.toList_append, ha]
    · rw [← ha, String.length_toList]
  · intro ta hlex happart
    obtain ⟨ms, hpath, ha, rfl⟩ := lex_eq_ok_iff.mp hlex
    have hon : Path .code .start ms .code b.toList.head? :=
      (Path.code_iff filename).mpr ⟨hpath, happart⟩
    have hrun : Run.ofText Recognizer.code (a ++ b) =
        { moves := ms ++
            ((Run.ofText Recognizer.code b).relocate (Mark.start.advance a.toList)).moves
          fault? := ((Run.ofText Recognizer.code b).relocate
            (Mark.start.advance a.toList)).fault? } := by
      rw [← Run.of_code_eq_relocate, Run.ofText, String.toList_append, ha, Run.of_path hon rfl]
    rw [lex, lexWith, hrun, Run.outcome_append, Run.outcome_relocate, lex, lexWith]
    cases (Run.ofText Recognizer.code b).outcome filename <;> rfl

/-- After a newline and a tab the first line of a text lies at column 5 of
the second, and its own second line is the third. -/
theorem lex_append_newline :
    Boundary ("é\n\t" ++ "x\n$'") 3 .code ∧
    lex ("é\n\t" ++ "x\n$'") "a.mcl" =
      .error ⟨.unterminatedInterpolation, "a.mcl", some ⟨3, 1⟩⟩ ∧
    lex ("é\n\t" ++ "x\n1") "a.mcl" = .ok
      [⟨"é", .identifier, ⟨1, 1⟩, 0, "a.mcl"⟩, ⟨"\n\t", .whitespace, ⟨1, 2⟩, 1, "a.mcl"⟩,
        ⟨"x", .identifier, ⟨2, 5⟩, 3, "a.mcl"⟩, ⟨"\n", .whitespace, ⟨2, 6⟩, 4, "a.mcl"⟩,
        ⟨"1", .number, ⟨3, 1⟩, 5, "a.mcl"⟩] := by
  obtain ⟨ha, hnumber, hopen⟩ :
      lex "é\n\t" "a.mcl" = .ok [⟨"é", .identifier, ⟨1, 1⟩, 0, "a.mcl"⟩,
        ⟨"\n\t", .whitespace, ⟨1, 2⟩, 1, "a.mcl"⟩] ∧
      lex "x\n1" "a.mcl" = .ok [⟨"x", .identifier, ⟨1, 1⟩, 0, "a.mcl"⟩,
        ⟨"\n", .whitespace, ⟨1, 2⟩, 1, "a.mcl"⟩, ⟨"1", .number, ⟨2, 1⟩, 2, "a.mcl"⟩] ∧
      lex "x\n$'" "a.mcl" = .error ⟨.unterminatedInterpolation, "a.mcl", some ⟨2, 1⟩⟩ :=
    ⟨by cbv, by cbv, by cbv⟩
  have happart : ∀ b : String, b.toList.head? = some 'x' →
      Apart [⟨"é", .identifier, ⟨1, 1⟩, 0, "a.mcl"⟩,
        ⟨"\n\t", .whitespace, ⟨1, 2⟩, 1, "a.mcl"⟩] b := by
    intro b hb t ht c hc
    rw [hb] at hc
    cases ht
    cases hc
    decide
  refine ⟨?_, ?_, ?_⟩
  · exact (lex_append _ _ "a.mcl").1.mpr ⟨_, ha, happart _ (by decide)⟩
  · rw [(lex_append _ _ "a.mcl").2 _ ha (happart _ (by decide)), hopen]
    rfl
  · rw [(lex_append _ _ "a.mcl").2 _ ha (happart _ (by decide)), hnumber]
    rfl

end ScriptLexer
