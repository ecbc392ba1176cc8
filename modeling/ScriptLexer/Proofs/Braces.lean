/-
ScriptLexer.Proofs.Braces — what a run of braces means.

In literal text the loop reads from left to right and takes doubled braces
together. So of `n` times `{` it keeps one for each two, and if one is left over
it opens an expression; of `n` times `}` it keeps one for each two and the one
left over as well. In code it is the last brace that counts: a `}` closes the
expression only if no other follows, so all before it are tokens
(`lex_brace_runs`).

`Gathers` is the loop together with the text that it keeps, and `InSegment` the
places in a text where the loop comes by. They are there whether or not the
segment ever ends, and if it ends, its token begins with what has been kept
(`InSegment.of_takes`).
-/
import Mathlib
import ScriptLexer.Proofs.Gathering

namespace ScriptLexer

/-! ## The loop and what it keeps -/

namespace Segment

/-- The loop through literal text comes from `cs` to `rest`, and what it passes on the
way stands for `kept`: a doubled brace for one, an escape for the character that it
names, and any other character for itself. -/
inductive Gathers (q : Quote) : List Char → List Char → List Char → Prop where
  | stay {cs : List Char} : Gathers q cs [] cs
  | turn {u mid kept rest : List Char} : (Loop.literal q).turn (u ++ mid) = some mid →
      Gathers q mid kept rest → Gathers q (u ++ mid) (Text.decode (undouble u) ++ kept) rest

variable {q : Quote}

@[simp] theorem covered_before (cs : List Char) (g : Segment) :
    (before cs g).covered = cs ++ g.covered := by
  cases g with
  | mk raw opens => cases opens <;> simp [covered]

namespace Gathers

variable {cs kept mid kept' rest : List Char}

theorem trans (h : Gathers q cs kept mid) (h' : Gathers q mid kept' rest) :
    Gathers q cs (kept ++ kept') rest := by
  induction h with
  | stay => exact h'
  | turn hturn _ ih =>
    rw [List.append_assoc]
    exact .turn hturn (ih h')

/-- What the loop keeps is what stands for the text that it gathers. -/
theorem exists_collects (h : Gathers q cs kept rest) : ∃ held,
    (Loop.literal q).Collects cs held rest ∧ (held = [] ↔ kept = []) ∧
    (rest ≠ [] → Text.decode held = kept) := by
  induction h with
  | stay => exact ⟨[], .stay, by simp, by simp⟩
  | @turn u mid kept rest hturn _ ih =>
    obtain ⟨held, hcollects, hempty, hkept⟩ := ih
    refine ⟨_, .turn hturn hcollects, by simp [Loop.keep, hempty], ?_⟩
    intro hrest
    have hmid : mid ≠ [] := by
      rintro rfl
      exact hrest hcollects.of_nil
    have hpiece := piece_of_turn hturn hmid
    rw [Loop.keep, hpiece.complete_undouble.decode_append, hkept hrest]

/-- The scanner passes over what the loop passes, and what it stands for comes first in
what the segment stands for. -/
theorem exists_passed (h : Gathers q cs kept rest) : ∃ passed, cs = passed ++ rest ∧
    (passed = [] ↔ kept = []) ∧ scan q cs = (scan q rest).map (before passed) ∧
    ∀ g, scan q rest = some g → (before passed g).text = kept ++ g.text := by
  obtain ⟨held, hcollects, hempty, hkept⟩ := h.exists_collects
  obtain ⟨passed, hcs, hnil, hscan, hheld⟩ := hcollects.exists_passed
  refine ⟨passed, hcs, hnil.trans hempty, hscan, ?_⟩
  intro g hg
  have hrest : rest ≠ [] := by
    rintro rfl
    cases hg
  have hcomplete := (hcollects.complete Loop.complete_keep_literal).resolve_left hrest
  calc (before passed g).text = Text.decode (held ++ undouble g.raw) := by
        rw [← hheld g hg]
        rfl
    _ = kept ++ g.text := by
        rw [hcomplete.decode_append, hkept hrest]
        rfl

/-- Doubled braces are kept one for each two. -/
theorem openPairs (k : Nat) (r : List Char) :
    Gathers q (List.replicate (2 * k) '\x7b' ++ r) (List.replicate k '\x7b') r := by
  induction k with
  | zero => exact .stay
  | succ k ih =>
    have hturn : (Loop.literal q).turn
        (['\x7b', '\x7b'] ++ (List.replicate (2 * k) '\x7b' ++ r)) =
        some (List.replicate (2 * k) '\x7b' ++ r) := by
      cases q <;> rfl
    exact .turn hturn ih

/-- Closing braces are kept one for each two, and one that is left over as well. -/
theorem closeRun (n : Nat) {r : List Char} (hr : r.head? ≠ some '\x7d') :
    Gathers q (List.replicate n '\x7d' ++ r) (List.replicate ((n + 1) / 2) '\x7d') r := by
  induction n using Nat.twoStepInduction with
  | zero => exact .stay
  | one =>
    have hturn : (Loop.literal q).turn (['\x7d'] ++ r) = some r := by
      have hq := q.char_ne.2.2
      simp [Loop.turn, hr, hq.symm]
    exact .turn hturn .stay
  | more n ih _ =>
    have hturn : (Loop.literal q).turn (['\x7d', '\x7d'] ++ (List.replicate n '\x7d' ++ r)) =
        some (List.replicate n '\x7d' ++ r) := by
      cases q <;> rfl
    have hhalf : (n + 2 + 1) / 2 = (n + 1) / 2 + 1 := by omega
    rw [hhalf]
    exact .turn hturn ih

end Gathers

end Segment

/-! ## Where the loop comes by -/

/-- The lexer begins a segment at the boundary `b`, in a string that `q` closes. If the
string begins there, its mark is read first; then the loop comes to where `rest` is
left, and what it has passed stands for `kept`. -/
inductive InSegment (text : String) (b : Nat) (q : Quote) (opened : Location)
    (kept rest : List Char) : Prop where
  | intro {quote? : Option Quote} {mark cs : List Char} :
      Boundary text b (.literal quote? opened) → Entry quote? mark q →
      text.toList.drop b = mark ++ cs → (mark = [] → cs.head? ≠ some q.char) →
      Segment.Gathers q cs kept rest → InSegment text b q opened kept rest

namespace InSegment

variable {text : String} {b : Nat} {q : Quote} {opened : Location}
  {kept kept' rest rest' : List Char}

theorem trans (h : InSegment text b q opened kept rest)
    (h' : Segment.Gathers q rest kept' rest') :
    InSegment text b q opened (kept ++ kept') rest' := by
  obtain ⟨hb, hentry, htext, hopen, hgathers⟩ := h
  exact ⟨hb, hentry, htext, hopen, hgathers.trans h'⟩

/-- The step from where a segment begins reads the rest of it from where the loop comes
by, and puts what it stands for behind what has been kept. -/
theorem of_takes (h : InSegment text b q opened kept rest) {mode : Mode} {here : Location}
    {s : Step} {r : List Char} (hb : Boundary text b mode)
    (htext : text.toList.drop b = s.covered ++ r) (htakes : mode.Takes here s r.head?) :
    ∃ g, Segment.scan q rest = some g ∧
      s.lexeme? = (if g.opensExpression && (kept ++ g.raw).isEmpty then none
        else some ⟨.string, kept ++ g.text⟩) ∧
      s.next = (if g.opensExpression then .expression q opened else .literal (some q) opened) ∧
      b + s.covered.length + rest.length = text.length + g.covered.length := by
  obtain @⟨_, mark, _, hb', hentry, hdrop, hopen, hgathers⟩ := h
  obtain rfl := hb.mode_unique hb'
  obtain ⟨passed, rfl, hempty, hscan, hkept⟩ := hgathers.exists_passed
  obtain ⟨c, cs, hcovered⟩ := List.exists_cons_of_ne_nil htakes.covered_ne_nil
  have hfront : c :: (cs ++ r) = s.covered ++ r := by rw [hcovered]; rfl
  have hstep := Mode.step_of_takes hfront htakes
  rw [Mode.step_of_entry opened hentry (hfront.trans (htext.symm.trans hdrop)) hopen,
    Mode.segmentStep, hscan] at hstep
  cases hg : Segment.scan q rest with
  | none => simp [hg] at hstep
  | some g =>
    rw [hg] at hstep
    have hs := Except.ok.inj hstep
    have hcovers : s.covered = mark ++ (passed ++ g.covered) := by
      rw [← hs]
      exact congrArg (mark ++ ·) (Segment.covered_before passed g)
    have hnothing : (Segment.before passed g).raw.isEmpty = (kept ++ g.raw).isEmpty := by
      rw [Bool.eq_iff_iff]
      simp [Segment.before, hempty]
    refine ⟨g, rfl, ?_, ?_, ?_⟩
    · rw [← hkept g hg, ← hnothing, ← hs]
      rfl
    · rw [← hs]
      rfl
    · -- both count the text up to the end of what the step covers
      have hwhole := congrArg List.length hdrop
      have hpos := List.length_pos_iff.mpr htakes.covered_ne_nil
      rw [htext] at hdrop
      have hlength := congrArg List.length hdrop
      rw [List.length_drop, String.length_toList] at hwhole
      simp only [hcovers, List.length_append] at hwhole hlength hpos ⊢
      omega

/-- Where the loop comes by lies in the text behind the boundary, and what stands for
something takes up some of it. -/
theorem add_length_lt (h : InSegment text b q opened kept rest) (hkept : kept ≠ []) :
    b + rest.length < text.length := by
  obtain ⟨-, -, hdrop, -, hgathers⟩ := h
  obtain ⟨passed, rfl, hempty, -, -⟩ := hgathers.exists_passed
  have hpos := List.length_pos_iff.mpr (mt hempty.mp hkept)
  have hwhole := congrArg List.length hdrop
  rw [List.length_drop, String.length_toList] at hwhole
  simp only [List.length_append] at hwhole
  omega

/-- A single `{` opens an expression. -/
theorem boundary_of_brace {r : List Char} (h : InSegment text b q opened kept ('\x7b' :: r))
    (hr : r.head? ≠ some '\x7b') :
    Boundary text (text.length - r.length) (.expression q opened) := by
  obtain @⟨_, mark, _, hb, hentry, hdrop, hopen, hgathers⟩ := h
  obtain ⟨passed, rfl, -, hscan, -⟩ := hgathers.exists_passed
  rw [Segment.scan_open q hr] at hscan
  obtain ⟨hunits, -⟩ := Segment.scan_eq_some_iff.mp hscan
  rw [Segment.before_mk, List.append_nil] at hunits
  have hbehind := hb.step (r := r) (by simp [hdrop]) (.brace hentry hunits hr)
  have hwhole := congrArg List.length hdrop
  rw [List.length_drop, String.length_toList] at hwhole
  have hend : b + (mark ++ (passed ++ ['\x7b'])).length = text.length - r.length := by
    simp only [List.length_append, List.length_cons, List.length_nil] at hwhole ⊢
    omega
  rw [← hend]
  exact hbehind

/-- While literal text goes on there is no expression. -/
theorem not_boundary (h : InSegment text b q opened kept rest) (hkept : kept ≠ []) {q' : Quote}
    {opened' : Location} :
    ¬ Boundary text (text.length - rest.length) (.expression q' opened') := by
  intro hend
  have hlt := h.add_length_lt hkept
  obtain ⟨_, hb⟩ : ∃ quote?, Boundary text b (.literal quote? opened) := by
    obtain ⟨hb, -⟩ := h
    exact ⟨_, hb⟩
  rcases hb.exists_step hend (by omega) with ⟨hhere, -⟩ | ⟨s, r, hdrop, htakes, hle, hnext⟩
  · omega
  · obtain ⟨g, -, -, hafter, hlength⟩ := h.of_takes hb hdrop htakes
    have hcovered : g.covered = [] := List.length_eq_zero_iff.mp (by omega)
    have hclosed : g.opensExpression = false := by
      cases hopens : g.opensExpression with
      | false => rfl
      | true => simp [Segment.covered, hopens] at hcovered
    rw [hnext (by omega), hclosed] at hafter
    cases hafter

/-- Of a run of `{` the loop keeps one for each two, and comes to the one left over. -/
theorem openRun {n : Nat} (h : InSegment text b q opened kept (List.replicate n '\x7b' ++ rest)) :
    InSegment text b q opened (kept ++ List.replicate (n / 2) '\x7b')
      (List.replicate (n % 2) '\x7b' ++ rest) := by
  refine h.trans ?_
  have hn : List.replicate n '\x7b' ++ rest =
      List.replicate (2 * (n / 2)) '\x7b' ++ (List.replicate (n % 2) '\x7b' ++ rest) := by
    rw [← List.append_assoc, List.replicate_append_replicate, Nat.div_add_mod]
  rw [hn]
  exact .openPairs _ _

/-- Behind a run of `{` there is an expression if their number is odd. -/
theorem boundary_iff_odd {n : Nat} {q' : Quote} {opened' : Location} (hn : 0 < n)
    (h : InSegment text b q opened kept (List.replicate n '\x7b' ++ rest))
    (hrest : rest.head? ≠ some '\x7b') :
    Boundary text (text.length - rest.length) (.expression q' opened') ↔
      n % 2 = 1 ∧ q' = q ∧ opened' = opened := by
  have hrun := h.openRun
  rcases Nat.mod_two_eq_zero_or_one n with heven | hodd
  · rw [heven] at hrun
    have hkept : kept ++ List.replicate (n / 2) '\x7b' ≠ [] := by
      have hhalf : n / 2 ≠ 0 := by omega
      simp [hhalf]
    constructor
    · intro hend
      exact absurd hend (hrun.not_boundary hkept)
    · intro hend
      omega
  · rw [hodd] at hrun
    have hend := hrun.boundary_of_brace hrest
    constructor
    · intro hend'
      cases hend.mode_unique hend'
      exact ⟨hodd, rfl, rfl⟩
    · rintro ⟨-, rfl, rfl⟩
      exact hend

end InSegment

/-! ## Closing braces in an expression -/

/-- The steps of a run that begin at an offset from `i` up to `j`. -/
def Run.stepsBetween (r : Run) (i j : Nat) : List Step :=
  (r.moves.filter fun m => i ≤ m.mark.offset ∧ m.mark.offset < j).map Move.step

/-- The steps between two places on the way through a text are those of the path from
one to the other. -/
theorem Run.stepsBetween_of_path {text : String} {mode mode' : Mode} {before ms : List Move}
    {r : List Char} (first : Path .code .start before mode (coveredText ms ++ r).head?)
    (second : Path mode (Mark.start.advance (coveredText before)) ms mode' r.head?)
    (htext : text.toList = coveredText before ++ (coveredText ms ++ r)) :
    (ofText Recognizer.code text).stepsBetween (coveredText before).length
      ((coveredText before).length + (coveredText ms).length) = ms.map Move.step := by
  rw [List.head?_append] at first
  have hpath := first.append second
  obtain ⟨_, _, -, hafter, -⟩ := exists_path mode'
    (Mark.start.advance (coveredText (before ++ ms))) r
  rw [stepsBetween, ofText, htext, ← List.append_assoc, ← coveredText_append, of_path hpath rfl]
  congr 1
  have hstart : Mark.start.offset = 0 := rfl
  rw [List.filter_append, List.filter_append, List.filter_eq_nil_iff.mpr, List.filter_eq_self.mpr,
    List.filter_eq_nil_iff.mpr, List.nil_append, List.append_nil]
  · intro m hm
    have := hafter.offset_bounds m hm
    simp only [Mark.offset_advance, coveredText_append, List.length_append] at this
    simp only [decide_eq_true_eq]
    omega
  · intro m hm
    have := second.offset_bounds m hm
    simp only [Mark.offset_advance] at this
    simp only [decide_eq_true_eq]
    omega
  · intro m hm
    have := first.offset_bounds m hm
    simp only [decide_eq_true_eq]
    omega

/-- A run of `}` in an expression: tokens up to the last, which ends it. -/
theorem Mode.exists_closing_path (q : Quote) (opened : Location) (mark : Mark) (k : Nat)
    {next? : Option Char} (hnext : next? ≠ some '\x7d') :
    ∃ ms, Path (.expression q opened) mark ms (.literal (some q) opened) next? ∧
      coveredText ms = List.replicate (k + 1) '\x7d' ∧
      ms.map Move.step =
        List.replicate k ⟨some ⟨.punctuation, ['\x7d']⟩, ['\x7d'], .expression q opened⟩ ++
          [⟨none, ['\x7d'], .literal (some q) opened⟩] := by
  induction k generalizing mark with
  | zero => exact ⟨_, .singleton (.close hnext), rfl, rfl⟩
  | succ k ih =>
    obtain ⟨ms, hpath, hcovered, hsteps⟩ := ih (mark.advance ['\x7d'])
    have hbrace : (coveredText ms).head?.or next? = some '\x7d' := by
      rw [hcovered]
      rfl
    have htoken : Spells ['\x7d'] ⟨.punctuation, ['\x7d']⟩ := .punctuation (by decide)
    refine ⟨_, .cons (.inner htoken (by simp) fun _ => hbrace) hpath, ?_, ?_⟩
    · rw [coveredText_cons, hcovered]
      rfl
    · rw [List.map_cons, hsteps]
      rfl

/-- Of a run of `}` in an expression all but the last are tokens. -/
theorem Boundary.closing_steps {text : String} {b n : Nat} {q : Quote} {opened : Location}
    {r : List Char} (h : Boundary text b (.expression q opened)) (hn : 0 < n)
    (htext : text.toList.drop b = List.replicate n '\x7d' ++ r) (hr : r.head? ≠ some '\x7d') :
    (Run.ofText Recognizer.code text).stepsBetween b (b + n) =
      List.replicate (n - 1)
          ⟨some ⟨.punctuation, ['\x7d']⟩, ['\x7d'], .expression q opened⟩ ++
        [⟨none, ['\x7d'], .literal (some q) opened⟩] := by
  obtain ⟨k, rfl⟩ := Nat.exists_eq_add_of_lt hn
  rw [Nat.zero_add] at htext ⊢
  obtain ⟨before, r', hr', hpath, rfl⟩ := boundary_iff.mp h
  rw [hr', List.drop_left] at htext
  obtain ⟨ms, hclosing, hcovered, hsteps⟩ :=
    Mode.exists_closing_path q opened (Mark.start.advance (coveredText before)) k hr
  rw [← hcovered] at htext
  subst htext
  have hlength : k + 1 = (coveredText ms).length := by rw [hcovered, List.length_replicate]
  rw [hlength, Run.stepsBetween_of_path hpath hclosing hr', hsteps, ← hlength]
  rfl

/-! ## The law -/

/-- **Runs of braces**: take any place where the loop comes by in literal text, or where a
step begins in an expression, and the braces up to the first other character or the end.

What is kept in literal text is the beginning of what the segment stands for, if the
segment ends. Of `n` times `{` half are kept, rounded down, and an expression begins
behind them if `n` is odd. Of `n` times `}` half are kept, rounded up, and the loop goes
on behind them. In an expression `n - 1` times `}` are tokens and the last ends it. -/
theorem lex_brace_runs (text : String) {n : Nat} (hn : 0 < n) :
    (∀ b q opened kept rest, InSegment text b q opened kept rest →
      ∀ m ∈ (Run.ofText Recognizer.code text).moves, m.mark.offset = b →
        ∃ g, Segment.scan q rest = some g ∧
          m.step.lexeme? = if g.opensExpression && (kept ++ g.raw).isEmpty then none
            else some ⟨.string, kept ++ g.text⟩) ∧
    (∀ b q opened kept r, InSegment text b q opened kept (List.replicate n '\x7b' ++ r) →
      r.head? ≠ some '\x7b' →
        InSegment text b q opened (kept ++ List.replicate (n / 2) '\x7b')
          (List.replicate (n % 2) '\x7b' ++ r) ∧
        ∀ q' opened', Boundary text (text.length - r.length) (.expression q' opened') ↔
          n % 2 = 1 ∧ q' = q ∧ opened' = opened) ∧
    (∀ b q opened kept r, InSegment text b q opened kept (List.replicate n '\x7d' ++ r) →
      r.head? ≠ some '\x7d' →
        InSegment text b q opened (kept ++ List.replicate ((n + 1) / 2) '\x7d') r) ∧
    ∀ b q opened r, Boundary text b (.expression q opened) →
      text.toList.drop b = List.replicate n '\x7d' ++ r → r.head? ≠ some '\x7d' →
        (Run.ofText Recognizer.code text).stepsBetween b (b + n) =
          List.replicate (n - 1)
              ⟨some ⟨.punctuation, ['\x7d']⟩, ['\x7d'], .expression q opened⟩ ++
            [⟨none, ['\x7d'], .literal (some q) opened⟩] := by
  refine ⟨?_, ?_, ?_, ?_⟩
  · rintro _ q opened kept rest h m hm rfl
    obtain ⟨_, r, htext, hpath, -⟩ := Run.exists_path .code .start text.toList
    obtain ⟨r', hdrop, htakes⟩ := hpath.takes_of_mem htext m hm
    obtain ⟨g, hg, hlexeme, -, -⟩ := h.of_takes (hpath.boundary_of_mem htext m hm) hdrop htakes
    exact ⟨g, hg, hlexeme⟩
  · intro b q opened kept r h hr
    exact ⟨h.openRun, fun _ _ => h.boundary_iff_odd hn hr⟩
  · intro b q opened kept r h hr
    exact h.trans (.closeRun n hr)
  · intro b q opened r h htext hr
    exact h.closing_steps hn htext hr

/-- Three braces of each sort: behind an escaped one, at the end of an expression, and
behind it. -/
theorem lex_brace_runs_three :
    (InSegment "$'\\\x7b\x7b\x7b\x7b1\x7d\x7d\x7dx\x7d\x7d\x7d'" 1 .single ⟨1, 1⟩ ['\x7b']
        (List.replicate 3 '\x7b' ++ "1\x7d\x7d\x7dx\x7d\x7d\x7d'".toList) ∧
      InSegment "$'\\\x7b\x7b\x7b\x7b1\x7d\x7d\x7dx\x7d\x7d\x7d'" 1 .single ⟨1, 1⟩
        ['\x7b', '\x7b'] "\x7b1\x7d\x7d\x7dx\x7d\x7d\x7d'".toList ∧
      Boundary "$'\\\x7b\x7b\x7b\x7b1\x7d\x7d\x7dx\x7d\x7d\x7d'" 7 (.expression .single ⟨1, 1⟩)) ∧
    (Boundary "$'\\\x7b\x7b\x7b\x7b1\x7d\x7d\x7dx\x7d\x7d\x7d'" 8 (.expression .single ⟨1, 1⟩) ∧
      (Run.ofText Recognizer.code
          "$'\\\x7b\x7b\x7b\x7b1\x7d\x7d\x7dx\x7d\x7d\x7d'").stepsBetween 8 11 =
        [⟨some ⟨.punctuation, ['\x7d']⟩, ['\x7d'], .expression .single ⟨1, 1⟩⟩,
          ⟨some ⟨.punctuation, ['\x7d']⟩, ['\x7d'], .expression .single ⟨1, 1⟩⟩,
          ⟨none, ['\x7d'], .literal (some .single) ⟨1, 1⟩⟩]) ∧
    InSegment "$'\\\x7b\x7b\x7b\x7b1\x7d\x7d\x7dx\x7d\x7d\x7d'" 11 .single ⟨1, 1⟩ ['x']
      (List.replicate 3 '\x7d' ++ ['\'']) ∧
    InSegment "$'\\\x7b\x7b\x7b\x7b1\x7d\x7d\x7dx\x7d\x7d\x7d'" 11 .single ⟨1, 1⟩
      ['x', '\x7d', '\x7d'] ['\''] ∧
    ∀ m ∈ (Run.ofText Recognizer.code "$'\\\x7b\x7b\x7b\x7b1\x7d\x7d\x7dx\x7d\x7d\x7d'").moves,
      m.mark.offset = 11 → m.step.lexeme? = some ⟨.string, ['x', '\x7d', '\x7d']⟩ := by
  obtain ⟨hkept, hopen, hclose, hsteps⟩ :=
    lex_brace_runs "$'\\\x7b\x7b\x7b\x7b1\x7d\x7d\x7dx\x7d\x7d\x7d'" (n := 3) (by decide)
  have hfirst : InSegment "$'\\\x7b\x7b\x7b\x7b1\x7d\x7d\x7dx\x7d\x7d\x7d'" 1 .single ⟨1, 1⟩
      ['\x7b'] (List.replicate 3 '\x7b' ++ "1\x7d\x7d\x7dx\x7d\x7d\x7d'".toList) := by
    refine .intro (.of_finish (k := 0) (by cbv)) (.first .single) rfl (by simp) ?_
    exact .turn (u := ['\\', '\x7b']) rfl .stay
  have hexpression : Boundary "$'\\\x7b\x7b\x7b\x7b1\x7d\x7d\x7dx\x7d\x7d\x7d'" 8
      (.expression .single ⟨1, 1⟩) := .of_finish (k := 2) (by cbv)
  have hsecond : InSegment "$'\\\x7b\x7b\x7b\x7b1\x7d\x7d\x7dx\x7d\x7d\x7d'" 11 .single ⟨1, 1⟩
      ['x'] (List.replicate 3 '\x7d' ++ ['\'']) := by
    refine .intro (.of_finish (k := 5) (by cbv)) (.later .single) rfl (by decide) ?_
    exact .turn (u := ['x']) rfl .stay
  obtain ⟨hpair, hbehind⟩ := hopen _ _ _ _ _ hfirst (by decide)
  have hthird := hclose _ _ _ _ _ hsecond (by decide)
  have hhole := (hbehind _ _).mpr ⟨rfl, rfl, rfl⟩
  refine ⟨⟨hfirst, hpair, hhole⟩, ⟨hexpression, ?_⟩, hsecond, hthird, ?_⟩
  · exact hsteps 8 _ _ _ hexpression rfl (by decide)
  · intro m hm hoffset
    obtain ⟨g, hg, hlexeme⟩ := hkept _ _ _ _ _ hthird m hm hoffset
    cases hg
    exact hlexeme

end ScriptLexer
