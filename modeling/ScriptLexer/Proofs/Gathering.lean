/-
ScriptLexer.Proofs.Gathering — what a loop gathers on its way.

The loops through strings look for the end of a text and put together what it says:
`Loop.Collects` holds of a loop, the text that it starts in front of, what it has
gathered and what is left, and `Loop.Yields` of a loop that stops in front of a
character. Through literal text a loop gathers each doubled brace once.

What one turn adds is made of whole units, so what a loop has gathered is complete at
every place that it comes to (`Collects.complete`); only a backslash at the very end of
the text is not, and there no loop yields anything. What the loops yield is what the
scanners find (`body_yields_iff`, `literal_yields_iff`).
-/
import Mathlib
import ScriptLexer.Proofs.Escape
import ScriptLexer.Proofs.Progress

namespace ScriptLexer

/-! ## One turn through literal text -/

namespace Segment

/-- What one turn passes over in front of `mid`: an escape, a doubled brace, or one
character that begins neither. -/
inductive Piece (q : Quote) (mid : List Char) : List Char → Prop where
  | escape (c : Char) : Piece q mid ['\\', c]
  | openPair : Piece q mid ['\x7b', '\x7b']
  | closePair : Piece q mid ['\x7d', '\x7d']
  | plain {c : Char} : c ≠ q.char → c ≠ '\\' → c ≠ '\x7b' →
      (c = '\x7d' → mid.head? ≠ some '\x7d') → Piece q mid [c]

theorem undouble_close {cs : List Char} (h : cs.head? ≠ some '\x7d') :
    undouble ('\x7d' :: cs) = '\x7d' :: undouble cs := by
  refine undouble.eq_5 _ _ (by simp) (by simp) ?_
  rintro ds - rfl
  exact h rfl

theorem undouble_singleton (c : Char) : undouble [c] = [c] :=
  undouble.eq_5 _ _ (by simp) (by simp) (by simp)

@[simp] theorem undouble_eq_nil_iff {cs : List Char} : undouble cs = [] ↔ cs = [] := by
  constructor
  · intro h
    unfold undouble at h
    split at h <;> simp_all
  · rintro rfl
    rfl

theorem eq_singleton_of_drop {cs mid : List Char} (h : (cs ++ mid).drop 1 = mid)
    (hne : mid ≠ []) : ∃ c, cs = [c] := by
  have hlength := congrArg List.length h
  have hpos := List.length_pos_iff.mpr hne
  rw [List.length_drop, List.length_append] at hlength
  exact List.length_eq_one_iff.mp (by omega)

variable {q : Quote}

theorem raw_prefix_of_scan {cs : List Char} {g : Segment} (h : scan q cs = some g) :
    g.raw <+: cs := by
  obtain ⟨-, r, hr⟩ := scan_eq_some_iff.mp h
  split at hr
  · exact ⟨_, hr.1.symm⟩
  · exact ⟨_, hr.symm⟩

section

variable {u mid : List Char}

/-- The scanner passes over what one turn passes over. -/
theorem scan_of_turn (h : (Loop.literal q).turn (u ++ mid) = some mid) :
    scan q (u ++ mid) = (scan q mid).map (before u) := by
  rcases Loop.turn_literal h with ⟨hlast, rfl⟩ | ⟨u', -, hu', hunits⟩
  · rw [hlast, scan_backslash]
    rfl
  · obtain rfl := List.append_cancel_right hu'
    exact scan_append hunits mid

/-- A turn that leaves something passes over a piece. -/
theorem piece_of_turn (h : (Loop.literal q).turn (u ++ mid) = some mid) (hne : mid ≠ []) :
    Piece q mid u := by
  cases u with
  | nil => exact absurd (Loop.turn_shortens h).2 (Nat.lt_irrefl _)
  | cons c cs =>
    simp only [List.cons_append, Loop.turn] at h
    split at h
    · cases h
    next hq =>
    split at h
    · next hs =>
      obtain ⟨d, rfl⟩ := eq_singleton_of_drop (Option.some.inj h) hne
      rw [hs]
      exact .escape d
    next hs =>
    split at h
    · next hpair =>
      obtain ⟨hbrace, hhead⟩ := hpair
      obtain ⟨d, rfl⟩ := eq_singleton_of_drop (Option.some.inj h) hne
      obtain rfl : d = c := Option.some.inj hhead
      rcases hbrace with rfl | rfl
      · exact .openPair
      · exact .closePair
    next hpair =>
    split at h
    · cases h
    · next ho =>
      obtain rfl : cs = [] := by simpa using h
      refine .plain hq hs ho ?_
      rintro rfl hhead
      exact hpair ⟨.inr rfl, hhead⟩

/-- Doubled braces are written once in a piece and behind it, never across. -/
theorem Piece.undouble_append (h : Piece q mid u) {raw : List Char} (hraw : raw <+: mid) :
    undouble (u ++ raw) = undouble u ++ undouble raw := by
  cases h with
  | escape | openPair | closePair => rfl
  | @plain c hq hs ho hpair =>
    have hc : undouble (c :: raw) = c :: undouble raw := by
      by_cases hc : c = '\x7d'
      · subst hc
        refine undouble_close ?_
        intro hhead
        obtain ⟨ds, rfl⟩ := List.head?_eq_some_iff.mp hhead
        obtain ⟨r, rfl⟩ := hraw
        exact hpair rfl rfl
      · exact undouble_plain _ hs ho hc
    rw [List.singleton_append, hc, undouble_singleton, List.singleton_append]

/-- No escape begins in a piece and ends behind it. -/
theorem Piece.complete_undouble (h : Piece q mid u) : Text.Complete (undouble u) := by
  cases h with
  | escape c => exact .escape c .nil
  | openPair | closePair => decide
  | plain hq hs ho hpair =>
    rw [undouble_singleton]
    exact .plain hs .nil

end

end Segment

/-- The body of a plain string is made of whole units. -/
theorem Quote.Body.complete {q : Quote} {b : List Char} (h : q.Body b) : Text.Complete b := by
  induction h with
  | nil => exact .nil
  | escape c _ ih => exact .escape c ih
  | plain _ hs _ ih => exact .plain hs ih

/-! ## What a loop gathers -/

namespace Loop

/-- What a loop that has passed over `u` in one turn adds to the text that it gathers:
a doubled brace once, and everything else as it is. -/
def keep : Loop → List Char → List Char
  | literal _, u => Segment.undouble u
  | _, u => u

/-- A loop comes from `cs` to `rest`, and has gathered `held` on the way. -/
inductive Collects (loop : Loop) : List Char → List Char → List Char → Prop where
  | stay {cs : List Char} : Collects loop cs [] cs
  | turn {u mid held rest : List Char} : loop.turn (u ++ mid) = some mid →
      Collects loop mid held rest → Collects loop (u ++ mid) (loop.keep u ++ held) rest

/-- A loop over `cs` stops in front of the character `stop`, with `held` gathered. -/
def Yields (loop : Loop) (cs held : List Char) (stop : Char) : Prop :=
  ∃ rest, loop.Collects cs held (stop :: rest) ∧ loop.turn (stop :: rest) = none

variable {loop : Loop} {q : Quote} {cs u mid held rest : List Char} {stop : Char}

theorem Collects.of_nil (h : loop.Collects [] held rest) : rest = [] := by
  generalize hcs : ([] : List Char) = cs at h
  cases h with
  | stay => rfl
  | turn hturn _ =>
    rw [← hcs] at hturn
    simp at hturn

/-- A loop gathers something wherever it comes. -/
theorem Turns.collects {n : Nat} (h : loop.Turns n cs rest) :
    ∃ held, loop.Collects cs held rest := by
  induction h with
  | zero => exact ⟨[], .stay⟩
  | succ hturn _ ih =>
    obtain ⟨held, hcollects⟩ := ih
    obtain ⟨u, -, rfl, -⟩ := turn_eq_some hturn
    exact ⟨_, .turn hturn hcollects⟩

/-! ### Whole units -/

/-- A turn through a plain string adds a unit, unless it is the last one of the text. -/
theorem complete_keep_body (h : (body q).turn (u ++ mid) = some mid) :
    mid = [] ∨ Text.Complete ((body q).keep u) := by
  rcases turn_body h with ⟨-, hmid⟩ | ⟨u', -, hu', hbody⟩
  · exact .inl hmid
  · obtain rfl := List.append_cancel_right hu'
    exact .inr hbody.complete

/-- A turn through literal text adds a unit, unless it is the last one of the text. -/
theorem complete_keep_literal (h : (literal q).turn (u ++ mid) = some mid) :
    mid = [] ∨ Text.Complete ((literal q).keep u) := by
  by_cases hmid : mid = []
  · exact .inl hmid
  · exact .inr (Segment.piece_of_turn h hmid).complete_undouble

/-- If every turn adds a unit then a loop has gathered whole units wherever it comes,
the end of the text apart. -/
theorem Collects.complete (hunit : ∀ {u mid}, loop.turn (u ++ mid) = some mid →
      mid = [] ∨ Text.Complete (loop.keep u)) (h : loop.Collects cs held rest) :
    rest = [] ∨ Text.Complete held := by
  induction h with
  | stay => exact .inr .nil
  | turn hturn hcollects ih =>
    rcases hunit hturn with rfl | hu
    · exact .inl hcollects.of_nil
    · exact ih.imp_right hu.append

theorem Yields.complete (hunit : ∀ {u mid}, loop.turn (u ++ mid) = some mid →
      mid = [] ∨ Text.Complete (loop.keep u)) (h : loop.Yields cs held stop) :
    Text.Complete held := by
  obtain ⟨rest, hcollects, -⟩ := h
  exact (hcollects.complete hunit).resolve_left (by simp)

/-! ### Loops and scanners -/

/-- Where the loop through a plain string comes, the body goes on. -/
theorem Collects.body_eq (h : (body q).Collects cs held rest) {b : List Char}
    (hb : q.body? rest = some b) : q.body? cs = some (held ++ b) := by
  induction h with
  | stay => exact hb
  | @turn u mid held rest hturn _ ih =>
    rcases turn_body hturn with ⟨-, rfl⟩ | ⟨u', -, hu', hbody⟩
    · exact absurd (ih hb) (by simp)
    · obtain rfl := List.append_cancel_right hu'
      rw [Quote.body?_append hbody, ih hb, List.append_assoc]
      rfl

/-- The scanner passes over what the loop through literal text passes, and the loop has
gathered it with doubled braces written once. -/
theorem Collects.exists_passed (h : (literal q).Collects cs held rest) : ∃ passed,
    cs = passed ++ rest ∧ (passed = [] ↔ held = []) ∧
    Segment.scan q cs = (Segment.scan q rest).map (Segment.before passed) ∧
    ∀ g, Segment.scan q rest = some g →
      Segment.undouble (passed ++ g.raw) = held ++ Segment.undouble g.raw := by
  induction h with
  | stay => exact ⟨[], rfl, by simp, by simp, by simp⟩
  | @turn u mid held rest hturn _ ih =>
    obtain ⟨passed, rfl, hempty, hscan, hheld⟩ := ih
    refine ⟨u ++ passed, by simp, by simp [keep, hempty], ?_, ?_⟩
    · rw [Segment.scan_of_turn hturn, hscan]
      simp [Function.comp_def]
    · intro g hg
      have hmid : Segment.scan q (passed ++ rest) = some (Segment.before passed g) := by
        rw [hscan, hg]
        rfl
      have hpiece : Segment.Piece q (passed ++ rest) u := by
        refine Segment.piece_of_turn hturn ?_
        intro hnil
        rw [hnil] at hmid
        cases hmid
      have happend : Segment.undouble (u ++ (passed ++ g.raw)) =
          Segment.undouble u ++ Segment.undouble (passed ++ g.raw) :=
        hpiece.undouble_append (Segment.raw_prefix_of_scan hmid)
      rw [List.append_assoc, happend, hheld g hg, ← List.append_assoc]
      rfl

/-- A loop stops in front of the character that ends the token, if one does. -/
theorem exists_yields (loop : Loop) (cs : List Char) : ∃ passed rest, cs = passed ++ rest ∧
    loop.Answers passed rest ∧ ∀ stop ∈ rest.head?, ∃ held, loop.Yields cs held stop := by
  obtain ⟨n, passed, rest, hcs, -, hturns, hstop, hanswers⟩ := exists_end loop cs
  refine ⟨passed, rest, hcs, hanswers, ?_⟩
  intro stop hhead
  obtain ⟨r, rfl⟩ := List.head?_eq_some_iff.mp hhead
  obtain ⟨held, hcollects⟩ := hturns.collects
  exact ⟨held, r, hcollects, hstop⟩

theorem body?_of_yields (h : (body q).Yields cs held stop) :
    q.body? cs = some held ∧ stop = q.char := by
  obtain ⟨rest, hcollects, hstop⟩ := h
  have hhere : q.body? (stop :: rest) = some [] := answers_of_stop hstop
  obtain ⟨-, r, hr⟩ := Quote.body?_eq_some_iff.mp hhere
  exact ⟨by simpa using hcollects.body_eq hhere, (List.cons.inj hr).1⟩

/-- What the loop through a plain string hands on is the body that the scanner finds. -/
theorem body_yields_iff : (body q).Yields cs held stop ↔
    q.body? cs = some held ∧ stop = q.char := by
  refine ⟨body?_of_yields, ?_⟩
  rintro ⟨hbody, rfl⟩
  obtain ⟨passed, rest, rfl, hanswers, hyields⟩ := exists_yields (body q) cs
  rw [Answers, hbody] at hanswers
  obtain ⟨c, hhead, -⟩ := Option.map_eq_some_iff.mp hanswers.symm
  obtain ⟨held', h⟩ := hyields c hhead
  obtain ⟨hbody', rfl⟩ := body?_of_yields h
  obtain rfl : held' = held := Option.some.inj (hbody'.symm.trans hbody)
  exact h

theorem scan_of_yields (h : (literal q).Yields cs held stop) : ∃ s, Segment.scan q cs = some s ∧
    held = Segment.undouble s.raw ∧ stop = if s.opensExpression then '\x7b' else q.char := by
  obtain ⟨rest, hcollects, hstop⟩ := h
  have hhere : Segment.scan q (stop :: rest) = some ⟨[], stop = '\x7b'⟩ := answers_of_stop hstop
  obtain ⟨passed, -, -, hscan, hheld⟩ := hcollects.exists_passed
  rw [hhere] at hscan
  refine ⟨_, hscan, by simpa using (hheld _ hhere).symm, ?_⟩
  by_cases hopen : stop = '\x7b'
  · simp [Segment.before, hopen]
  · obtain ⟨-, r, hr⟩ := Segment.scan_eq_some_iff.mp hhere
    simp only [hopen, decide_false, Bool.false_eq_true, if_false] at hr
    simpa [Segment.before, hopen] using (List.cons.inj hr).1

/-- What the loop through literal text hands on is the segment that the scanner finds,
with doubled braces written once. -/
theorem literal_yields_iff : (literal q).Yields cs held stop ↔ ∃ s, Segment.scan q cs = some s ∧
    held = Segment.undouble s.raw ∧ stop = if s.opensExpression then '\x7b' else q.char := by
  refine ⟨scan_of_yields, ?_⟩
  rintro ⟨s, hscan, rfl, rfl⟩
  obtain ⟨passed, rest, rfl, hanswers, hyields⟩ := exists_yields (literal q) cs
  rw [Answers, hscan] at hanswers
  obtain ⟨c, hhead, -⟩ := Option.map_eq_some_iff.mp hanswers.symm
  obtain ⟨held, h⟩ := hyields c hhead
  obtain ⟨s', hscan', rfl, rfl⟩ := scan_of_yields h
  obtain rfl : s' = s := Option.some.inj (hscan'.symm.trans hscan)
  exact h

end Loop

end ScriptLexer
