/-
ScriptLexer.Proofs.Path — what the lexer goes through.

A `Path` is a list of moves, each taken where the one before it ended, from
a mode and a mark to a mode. It depends on the text only through what the
moves cover and the character after the last of them, which is `next?`.
`Stops` says how a run ends. The main statement, `run_eq_iff`, says that a
run is a path together with the way it stops, so that facts about runs are
inductions over paths; `lex_eq_ok_iff` and `lex_eq_error_iff` say the same
of the tokens and the error of a whole text.

Paths are put together (`Path.append`) and cut (`Path.split`), and the
character after a path matters to its last move only (`Path.of_getLast?`).
The places where the lexer is between two steps are where the paths into a
text end (`boundary_iff`). The text determines them: there is one mode at each
(`Boundary.mode_unique`) and one step from each to the next
(`Boundary.step`, `Boundary.exists_step`).
-/
import ScriptLexer.Proofs.Transition
import ScriptLexer.Run

namespace ScriptLexer

/-! ## What a step covers -/

namespace Mode

variable {mode : Mode} {here : Location} {s : Step} {next? : Option Char}

/-- Every step covers something. -/
theorem Takes.covered_ne_nil (h : mode.Takes here s next?) : s.covered ≠ [] := by
  cases h with
  | token hspells => exact hspells.ne_nil
  | inner hspells => exact hspells.ne_nil
  | text _ _ hne => exact hne
  | _ => simp

/-- Nothing is no fault. -/
theorem Faults.ne_nil {cs : List Char} {fault : Fault} (h : mode.Faults here cs fault) :
    cs ≠ [] := by
  cases h with
  | text _ hne _ => exact hne
  | _ => simp

end Mode

/-- The characters that moves cover. -/
def coveredText (ms : List Move) : List Char :=
  ms.flatMap fun m => m.step.covered

@[simp] theorem coveredText_nil : coveredText [] = [] := rfl

@[simp] theorem coveredText_cons (m : Move) (ms : List Move) :
    coveredText (m :: ms) = m.step.covered ++ coveredText ms := rfl

@[simp] theorem coveredText_append (ms ms' : List Move) :
    coveredText (ms ++ ms') = coveredText ms ++ coveredText ms' :=
  List.flatMap_append

/-- Behind a move stands what the moves after it cover. -/
theorem drop_of_coveredText_cons {cs : List Char} {n : Nat} {m : Move} {ms : List Move}
    (h : cs.drop n = coveredText (m :: ms)) :
    cs.drop (n + m.step.covered.length) = coveredText ms := by
  rw [← List.drop_drop, h, coveredText_cons, List.drop_left]

/-- The lexemes that moves make. -/
def lexemesOf (ms : List Move) : List Lexeme :=
  ms.filterMap fun m => m.step.lexeme?

@[simp] theorem lexemesOf_nil : lexemesOf [] = [] := rfl

@[simp] theorem lexemesOf_cons (m : Move) (ms : List Move) :
    lexemesOf (m :: ms) = m.step.lexeme?.toList ++ lexemesOf ms := by
  rw [lexemesOf, List.filterMap_cons]
  cases m.step.lexeme? <;> rfl

@[simp] theorem lexemesOf_append (ms ms' : List Move) :
    lexemesOf (ms ++ ms') = lexemesOf ms ++ lexemesOf ms' :=
  List.filterMap_append

/-! ## Paths -/

/-- The moves that lead from a mode at a mark to a mode, with the character
`next?` after them. -/
inductive Path : Mode → Mark → List Move → Mode → Option Char → Prop where
  | nil {mode : Mode} {mark : Mark} {next? : Option Char} : Path mode mark [] mode next?
  | cons {mode mode' : Mode} {mark : Mark} {s : Step} {ms : List Move} {next? : Option Char} :
      mode.Takes mark.location s ((coveredText ms).head?.or next?) →
      Path s.next (mark.advance s.covered) ms mode' next? →
      Path mode mark (⟨mark, mode, s⟩ :: ms) mode' next?

namespace Path

variable {mode mid mode' : Mode} {mark : Mark} {ms ms' : List Move} {next? : Option Char}

theorem append (first : Path mode mark ms mid ((coveredText ms').head?.or next?))
    (second : Path mid (mark.advance (coveredText ms)) ms' mode' next?) :
    Path mode mark (ms ++ ms') mode' next? := by
  generalize hnext : (coveredText ms').head?.or next? = next at first
  induction first with
  | nil => exact second
  | cons htakes _ ih =>
    rw [List.cons_append]
    refine .cons ?_ (ih (by simpa using second) hnext)
    rw [coveredText_append, List.head?_append, Option.or_assoc, hnext]
    exact htakes

/-- A path is cut between any two of its moves. -/
theorem split (h : Path mode mark (ms ++ ms') mode' next?) :
    ∃ mid, Path mode mark ms mid ((coveredText ms').head?.or next?) ∧
      Path mid (mark.advance (coveredText ms)) ms' mode' next? := by
  induction ms generalizing mode mark with
  | nil => exact ⟨mode, .nil, h⟩
  | cons m ms ih =>
    rw [List.cons_append] at h
    cases h with
    | cons htakes hrest =>
      obtain ⟨mid, first, second⟩ := ih hrest
      refine ⟨mid, .cons ?_ first, by simpa using second⟩
      rw [coveredText_append, List.head?_append, Option.or_assoc] at htakes
      exact htakes

theorem singleton {s : Step} (h : mode.Takes mark.location s next?) :
    Path mode mark [⟨mark, mode, s⟩] s.next next? :=
  .cons (by simpa using h) .nil

/-- A move of a path begins where the moves before it end, and is taken before
those after it. -/
theorem of_append_cons {m : Move} (h : Path mode mark (ms ++ m :: ms') mode' next?) :
    Path mode mark ms m.mode m.step.covered.head? ∧ m.mark = mark.advance (coveredText ms) ∧
      m.mode.Takes m.mark.location m.step ((coveredText ms').head?.or next?) ∧
      Path m.step.next (m.mark.advance m.step.covered) ms' mode' next? := by
  obtain ⟨mid, first, second⟩ := h.split
  cases second with
  | cons htakes hrest =>
    obtain ⟨c, cs, hcovered⟩ := List.exists_cons_of_ne_nil htakes.covered_ne_nil
    refine ⟨?_, rfl, htakes, hrest⟩
    simpa [hcovered] using first

/-- A move of a path into a text is made behind what the moves before it cover, in
front of what it covers itself and the rest of the text. -/
theorem exists_around {m : Move} {r : List Char} (h : Path .code .start ms mode' r.head?)
    (hm : m ∈ ms) :
    ∃ before rest, coveredText ms ++ r = coveredText before ++ (m.step.covered ++ rest) ∧
      Path .code .start before m.mode m.step.covered.head? ∧
      m.mark = Mark.start.advance (coveredText before) ∧
      m.mark.offset = (coveredText before).length ∧
      m.mode.Takes m.mark.location m.step rest.head? := by
  obtain ⟨before, after, rfl⟩ := List.append_of_mem hm
  obtain ⟨first, hmark, htakes, -⟩ := h.of_append_cons
  refine ⟨before, coveredText after ++ r, by simp, first, hmark, ?_, ?_⟩
  · rw [hmark, Mark.offset_advance]
    exact Nat.zero_add _
  · rw [List.head?_append]
    exact htakes

/-- A move of a path into a text covers the text in front of it, and sees the
character behind that. -/
theorem takes_of_mem {text : String} {r : List Char} (h : Path .code .start ms mode' r.head?)
    (htext : text.toList = coveredText ms ++ r) :
    ∀ m ∈ ms, ∃ rest, text.toList.drop m.mark.offset = m.step.covered ++ rest ∧
      m.mode.Takes m.mark.location m.step rest.head? := by
  intro m hm
  obtain ⟨before, rest, hcut, -, -, hoffset, htakes⟩ := h.exists_around hm
  refine ⟨rest, ?_, htakes⟩
  rw [hoffset, htext, hcut, List.drop_left]

/-- The last move of a path is taken before what comes after the path. -/
theorem of_concat {m : Move} (h : Path mode mark (ms ++ [m]) mode' next?) :
    Path mode mark ms m.mode m.step.covered.head? ∧ m.mark = mark.advance (coveredText ms) ∧
      m.mode.Takes m.mark.location m.step next? ∧ m.step.next = mode' := by
  obtain ⟨first, hmark, htakes, hrest⟩ := h.of_append_cons
  cases hrest
  exact ⟨first, hmark, by simpa using htakes, rfl⟩

/-- Only the last move of a path depends on what comes after the path. -/
theorem of_getLast? {other? : Option Char} (h : Path mode mark ms mode' next?)
    (hlast : ∀ m ∈ ms.getLast?, m.mode.Takes m.mark.location m.step other?) :
    Path mode mark ms mode' other? := by
  rcases List.eq_nil_or_concat ms with rfl | ⟨ms, m, rfl⟩
  · cases h
    exact .nil
  · rw [List.concat_eq_append] at h hlast ⊢
    obtain ⟨first, hmark, htakes, rfl⟩ := h.of_concat
    have hm := hlast m (by simp)
    obtain ⟨c, cs, hcovered⟩ := List.exists_cons_of_ne_nil htakes.covered_ne_nil
    have first' : Path mode mark ms m.mode ((coveredText [m]).head?.or other?) := by
      simpa [hcovered] using first
    refine first'.append ?_
    rw [← hmark]
    exact .singleton hm

/-! ### Offsets -/

theorem offset_bounds (h : Path mode mark ms mode' next?) : ∀ m ∈ ms,
    mark.offset ≤ m.mark.offset ∧ m.mark.offset < mark.offset + (coveredText ms).length := by
  induction h with
  | nil => simp
  | @cons mode _ mark s ms _ htakes _ ih =>
    have hpos : 0 < s.covered.length := List.length_pos_iff.mpr htakes.covered_ne_nil
    intro m hm
    simp only [coveredText_cons, List.length_append]
    rcases List.mem_cons.mp hm with rfl | hm
    · exact ⟨Nat.le_refl _, by simp only []; omega⟩
    · have := ih m hm
      simp only [Mark.offset_advance] at this
      omega

/-- There are at most as many moves as characters. -/
theorem length_le (h : Path mode mark ms mode' next?) : ms.length ≤ (coveredText ms).length := by
  induction h with
  | nil => simp
  | cons htakes _ ih =>
    have hpos := List.length_pos_iff.mpr htakes.covered_ne_nil
    simp only [List.length_cons, coveredText_cons, List.length_append]
    omega

theorem coveredText_ne_nil (h : Path mode mark ms mode' next?) (hne : ms ≠ []) :
    coveredText ms ≠ [] := by
  have hpos := Nat.lt_of_lt_of_le (List.length_pos_iff.mpr hne) h.length_le
  exact List.length_pos_iff.mp hpos

/-- Every move begins after the one before it. -/
theorem pairwise_offset (h : Path mode mark ms mode' next?) :
    ms.Pairwise fun a b => a.mark.offset < b.mark.offset := by
  induction h with
  | nil => exact .nil
  | @cons mode _ mark s ms _ htakes hrest ih =>
    refine .cons ?_ ih
    intro m hm
    have hpos : 0 < s.covered.length := List.length_pos_iff.mpr htakes.covered_ne_nil
    have := (hrest.offset_bounds m hm).1
    simp only [Mark.offset_advance] at this
    show mark.offset < m.mark.offset
    omega

end Path

/-! ## Passages

Where it does not matter which moves a path makes, only what it covers and
which lexemes come out of it, the moves are left out. -/

/-- The lexer gets from a mode at a mark over `text` to `mode'`, and makes the
lexemes `ls` on the way. -/
def Passes (mode : Mode) (mark : Mark) (text : List Char) (ls : List Lexeme) (mode' : Mode)
    (next? : Option Char) : Prop :=
  ∃ ms, Path mode mark ms mode' next? ∧ coveredText ms = text ∧ lexemesOf ms = ls

namespace Passes

variable {mode mid mode' : Mode} {mark : Mark} {next? : Option Char}

theorem nil : Passes mode mark [] [] mode next? :=
  ⟨[], .nil, rfl, rfl⟩

theorem step {s : Step} (h : mode.Takes mark.location s next?) :
    Passes mode mark s.covered s.lexeme?.toList s.next next? :=
  ⟨[⟨mark, mode, s⟩], .singleton h, by simp, by simp⟩

theorem append {a b : List Char} {ls ls' : List Lexeme}
    (first : Passes mode mark a ls mid (b.head?.or next?))
    (second : Passes mid (mark.advance a) b ls' mode' next?) :
    Passes mode mark (a ++ b) (ls ++ ls') mode' next? := by
  obtain ⟨ms, hms, rfl, rfl⟩ := first
  obtain ⟨ms', hms', rfl, rfl⟩ := second
  exact ⟨ms ++ ms', hms.append hms', by simp, by simp⟩

end Passes

/-! ## Runs -/

/-- How a run stops in a mode at `here`, with the text `r` left. -/
inductive Stops (mode : Mode) (here : Location) : List Char → Option Fault → Prop where
  | atEnd : Stops mode here [] mode.atEnd
  | fault {r : List Char} {fault : Fault} : mode.Faults here r fault →
      Stops mode here r (some fault)

namespace Run

variable {mode mode' : Mode} {mark : Mark} {ms : List Move}

/-- The run over a text that begins with what a path covers is the path and
the run after it. -/
theorem of_path {next? : Option Char} (h : Path mode mark ms mode' next?) {r : List Char}
    (hr : r.head? = next?) :
    of Recognizer.code mode mark (coveredText ms ++ r) =
      { moves := ms ++ (of Recognizer.code mode' (mark.advance (coveredText ms)) r).moves
        fault? := (of Recognizer.code mode' (mark.advance (coveredText ms)) r).fault? } := by
  induction h with
  | nil => rfl
  | @cons mode _ mark s ms _ htakes _ ih =>
    obtain ⟨c, cs, hcovered⟩ := List.exists_cons_of_ne_nil htakes.covered_ne_nil
    have hstep : mode.step Recognizer.code mark.location c (cs ++ (coveredText ms ++ r)) =
        .ok s := by
      refine Mode.step_of_takes (r := coveredText ms ++ r) (by simp [hcovered]) ?_
      rw [List.head?_append, hr]
      exact htakes
    have htext : coveredText (⟨mark, mode, s⟩ :: ms) ++ r =
        c :: (cs ++ (coveredText ms ++ r)) := by simp [hcovered]
    rw [htext, of_cons, hstep]
    simp only [hcovered, List.drop_left]
    rw [← hcovered, ih hr]
    simp [after]

/-- A run is a path and the way it stops. -/
theorem exists_path (mode : Mode) (mark : Mark) (input : List Char) :
    ∃ mode' r, input = coveredText (of Recognizer.code mode mark input).moves ++ r ∧
      Path mode mark (of Recognizer.code mode mark input).moves mode' r.head? ∧
      Stops mode' (mark.advance (coveredText (of Recognizer.code mode mark input).moves)).location
        r (of Recognizer.code mode mark input).fault? := by
  match input with
  | [] => exact ⟨mode, [], by simp, by simpa using .nil, by simpa using .atEnd⟩
  | c :: cs =>
    cases hstep : mode.step Recognizer.code mark.location c cs with
    | error fault =>
      have hrun : of Recognizer.code mode mark (c :: cs) = ⟨[], some fault⟩ := by
        rw [of_cons, hstep]
      rw [hrun]
      exact ⟨mode, c :: cs, by simp, .nil, .fault (Mode.step_eq_error_iff.mp hstep)⟩
    | ok s =>
      obtain ⟨r, hr, htakes⟩ := Mode.takes_of_step hstep
      have hshort : r.length < (c :: cs).length := by
        rw [hr, List.length_append]
        have := List.length_pos_iff.mpr htakes.covered_ne_nil
        omega
      obtain ⟨mode', r', hrest, hpath, hstops⟩ := exists_path s.next (mark.advance s.covered) r
      have hfirst : Path mode mark [⟨mark, mode, s⟩] s.next r.head? := .singleton htakes
      have hrun := of_path hfirst rfl
      simp only [coveredText_cons, coveredText_nil, List.append_nil, ← hr,
        List.singleton_append] at hrun
      rw [hrun]
      refine ⟨mode', r', ?_, ?_, ?_⟩
      · rw [hr, coveredText_cons, List.append_assoc, ← hrest]
      · refine .cons ?_ hpath
        rw [← List.head?_append, ← hrest]
        exact htakes
      · simpa using hstops
termination_by input.length
decreasing_by exact hshort

theorem of_stops {r : List Char} {fault? : Option Fault}
    (h : Stops mode mark.location r fault?) :
    of Recognizer.code mode mark r = ⟨[], fault?⟩ := by
  cases h with
  | atEnd => simp
  | fault hfault =>
    cases r with
    | nil => exact absurd hfault.ne_nil (by simp)
    | cons c cs => rw [of_cons, Mode.step_eq_error_iff.mpr hfault]

/-- The runs are the paths, each with the way it stops. -/
theorem run_eq_iff {input : List Char} {fault? : Option Fault} :
    of Recognizer.code mode mark input = ⟨ms, fault?⟩ ↔
      ∃ mode' r, input = coveredText ms ++ r ∧ Path mode mark ms mode' r.head? ∧
        Stops mode' (mark.advance (coveredText ms)).location r fault? := by
  constructor
  · intro h
    have hpath := exists_path mode mark input
    rw [h] at hpath
    exact hpath
  · intro h
    obtain ⟨mode', r, rfl, hpath, hstops⟩ := h
    rw [of_path hpath rfl, of_stops hstops]
    simp

end Run

/-! ## Lexing -/

/-- Only the end of a text in ordinary code is no fault. -/
theorem Stops.of_none {mode : Mode} {here : Location} {r : List Char}
    (h : Stops mode here r none) : mode = .code ∧ r = [] := by
  generalize hfault : (none : Option Fault) = fault? at h
  cases h with
  | atEnd =>
    refine ⟨?_, rfl⟩
    cases mode with
    | code => rfl
    | literal => cases hfault
    | expression => cases hfault
  | fault => cases hfault

variable {text filename : String}

theorem Run.outcome_eq_ok_iff {r : Run} {ts : List Token} :
    r.outcome filename = .ok ts ↔ r.fault? = none ∧ r.tokens filename = ts := by
  obtain ⟨ms, fault?⟩ := r
  cases fault? <;> simp [outcome]

/-- A text lexes if its run has no fault, and then has the tokens of the run. -/
theorem lex_eq_ok_iff_run {ts : List Token} : lex text filename = .ok ts ↔
    (Run.ofText Recognizer.code text).fault? = none ∧
      (Run.ofText Recognizer.code text).tokens filename = ts :=
  Run.outcome_eq_ok_iff

/-- A text lexes if a path leads through all of it and back to ordinary code. -/
theorem lex_eq_ok_iff {ts : List Token} : lex text filename = .ok ts ↔
    ∃ ms, Path .code .start ms .code none ∧ text.toList = coveredText ms ∧
      ts = ms.filterMap (Move.token? filename) := by
  constructor
  · intro h
    obtain ⟨mode, r, htext, hpath, hstops⟩ := Run.exists_path .code .start text.toList
    simp only [lex, lexWith, Run.ofText, Run.outcome] at h
    split at h
    · next hfault =>
      rw [hfault] at hstops
      obtain ⟨rfl, rfl⟩ := hstops.of_none
      cases h
      exact ⟨_, hpath, by simpa using htext, rfl⟩
    · cases h
  · intro h
    obtain ⟨ms, hpath, htext, rfl⟩ := h
    have hrun : Run.of Recognizer.code .code .start text.toList = ⟨ms, none⟩ :=
      Run.run_eq_iff.mpr ⟨.code, [], by simpa using htext, hpath, .atEnd⟩
    simp [lex, lexWith, Run.ofText, Run.outcome, hrun, Run.tokens]

/-- A text fails to lex where a path through it comes to a fault. -/
theorem lex_eq_error_iff {e : LexError} : lex text filename = .error e ↔
    ∃ ms mode r fault, Path .code .start ms mode r.head? ∧ text.toList = coveredText ms ++ r ∧
      Stops mode (Location.start.advance (coveredText ms)) r (some fault) ∧
      e = ⟨fault.cause, filename, some fault.location⟩ := by
  constructor
  · intro h
    obtain ⟨mode, r, htext, hpath, hstops⟩ := Run.exists_path .code .start text.toList
    simp only [lex, lexWith, Run.ofText, Run.outcome] at h
    split at h
    · cases h
    · next fault hfault =>
      rw [hfault] at hstops
      cases h
      exact ⟨_, mode, r, fault, hpath, htext, hstops, rfl⟩
  · intro h
    obtain ⟨ms, mode, r, fault, hpath, htext, hstops, rfl⟩ := h
    have hrun : Run.of Recognizer.code .code .start text.toList = ⟨ms, some fault⟩ :=
      Run.run_eq_iff.mpr ⟨mode, r, htext, hpath, hstops⟩
    simp [lex, lexWith, Run.ofText, Run.outcome, hrun]

/-! ## Boundaries -/

/-- After `n` characters of a text the lexer is between two steps, in `mode`. -/
def Boundary (text : String) (n : Nat) (mode : Mode) : Prop :=
  (n = 0 ∧ mode = .code) ∨
    ∃ m ∈ (Run.ofText Recognizer.code text).moves, m.finish.offset = n ∧ m.step.next = mode

/-- The boundaries of a text are where the paths into it end. -/
theorem boundary_iff {n : Nat} {mode : Mode} : Boundary text n mode ↔
    ∃ ms r, text.toList = coveredText ms ++ r ∧ Path .code .start ms mode r.head? ∧
      (coveredText ms).length = n := by
  constructor
  · intro h
    rcases h with ⟨rfl, rfl⟩ | ⟨m, hm, rfl, rfl⟩
    · exact ⟨[], text.toList, rfl, .nil, rfl⟩
    · -- cut the moves of the run behind the one that ends here
      obtain ⟨mode', r, htext, hpath, -⟩ := Run.exists_path .code .start text.toList
      obtain ⟨ms, ms', hms⟩ := List.append_of_mem hm
      rw [Run.ofText] at hms
      rw [hms, List.append_cons] at hpath htext
      obtain ⟨mid, hfirst, -⟩ := hpath.split
      obtain ⟨-, hmark, -, rfl⟩ := hfirst.of_concat
      refine ⟨ms ++ [m], coveredText ms' ++ r, ?_, ?_, ?_⟩
      · simpa using htext
      · rw [List.head?_append]
        exact hfirst
      · simp [Move.finish, hmark, Mark.start]
  · intro h
    obtain ⟨ms, r, htext, hpath, rfl⟩ := h
    rcases List.eq_nil_or_concat ms with rfl | ⟨ms, m, rfl⟩
    · cases hpath
      exact .inl ⟨rfl, rfl⟩
    · rw [List.concat_eq_append] at hpath htext ⊢
      obtain ⟨-, hmark, -, hnext⟩ := hpath.of_concat
      refine .inr ⟨m, ?_, ?_, hnext⟩
      · rw [Run.ofText, htext, Run.of_path hpath rfl]
        simp
      · simp [Move.finish, hmark, Mark.start]

/-- A move of a path through a text is made at a boundary. -/
theorem Path.boundary_of_mem {text : String} {ms : List Move} {mode : Mode} {r : List Char}
    (h : Path .code .start ms mode r.head?) (htext : text.toList = coveredText ms ++ r) :
    ∀ m ∈ ms, Boundary text m.mark.offset m.mode := by
  intro m hm
  obtain ⟨before, rest, hcut, first, -, hoffset, htakes⟩ := h.exists_around hm
  obtain ⟨c, cs, hcovered⟩ := List.exists_cons_of_ne_nil htakes.covered_ne_nil
  refine boundary_iff.mpr ⟨before, m.step.covered ++ rest, htext.trans hcut, ?_, hoffset.symm⟩
  simpa [hcovered] using first

/-- The moves of a run end at boundaries. -/
theorem Boundary.of_finish {text : String} {n k : Nat} {mode : Mode}
    (h : ((Run.ofText Recognizer.code text).moves.map fun m =>
      (m.finish.offset, m.step.next))[k]? = some (n, mode)) : Boundary text n mode := by
  obtain ⟨m, hm, hend⟩ := List.mem_map.mp (List.mem_of_getElem? h)
  obtain ⟨hoffset, hnext⟩ := Prod.mk.inj hend
  exact .inr ⟨m, hm, hoffset, hnext⟩

/-- The moves of a path say where it leads. -/
theorem Path.mode_unique {mode mode' mode'' : Mode} {mark : Mark} {ms : List Move}
    {next? other? : Option Char} (h : Path mode mark ms mode' next?)
    (h' : Path mode mark ms mode'' other?) : mode' = mode'' := by
  induction h with
  | nil =>
    cases h'
    rfl
  | cons _ _ ih =>
    cases h' with
    | cons _ hrest => exact ih hrest

/-- Of two paths into a text the one that covers less begins the other. -/
theorem Path.prefix_of_length_le {mode mode' : Mode} {ms ms' : List Move} {r r' : List Char}
    (h : Path .code .start ms mode r.head?) (h' : Path .code .start ms' mode' r'.head?)
    (htext : coveredText ms ++ r = coveredText ms' ++ r')
    (hle : (coveredText ms).length ≤ (coveredText ms').length) : ms <+: ms' := by
  have hrun : ms <+: (Run.of Recognizer.code .code .start (coveredText ms ++ r)).moves := by
    rw [Run.of_path h rfl]
    exact List.prefix_append _ _
  have hrun' : ms' <+: (Run.of Recognizer.code .code .start (coveredText ms ++ r)).moves := by
    rw [htext, Run.of_path h' rfl]
    exact List.prefix_append _ _
  rcases List.prefix_or_prefix_of_prefix hrun hrun' with hprefix | ⟨more, rfl⟩
  · exact hprefix
  · -- what the longer list has more covers nothing
    obtain ⟨_, -, hmore⟩ := h.split
    have hnil : more = [] := by
      have hmoves := hmore.length_le
      rw [coveredText_append, List.length_append] at hle
      exact List.length_eq_zero_iff.mp (by omega)
    simp [hnil]

namespace Boundary

variable {text : String} {n e : Nat} {mode mode' : Mode}

/-- A step from a boundary leads to a boundary. -/
theorem step {s : Step} {r : List Char} (h : Boundary text n mode)
    (htext : text.toList.drop n = s.covered ++ r)
    (htakes : mode.Takes (Location.start.advance (text.toList.take n)) s r.head?) :
    Boundary text (n + s.covered.length) s.next := by
  obtain ⟨ms, r', hr', hpath, rfl⟩ := boundary_iff.mp h
  rw [hr', List.drop_left] at htext
  rw [hr', List.take_left] at htakes
  subst htext
  refine boundary_iff.mpr ⟨ms ++ [⟨Mark.start.advance (coveredText ms), mode, s⟩], r, ?_, ?_, ?_⟩
  · simpa using hr'
  · obtain ⟨c, cs, hcovered⟩ := List.exists_cons_of_ne_nil htakes.covered_ne_nil
    refine Path.append ?_ (.singleton htakes)
    simpa [hcovered] using hpath
  · simp

/-- Between a boundary and one further on lies the step from the first. -/
theorem exists_step (h : Boundary text n mode) (h' : Boundary text e mode') (hle : n ≤ e) :
    (n = e ∧ mode = mode') ∨ ∃ s r, text.toList.drop n = s.covered ++ r ∧
      mode.Takes (Location.start.advance (text.toList.take n)) s r.head? ∧
      n + s.covered.length ≤ e ∧ (n + s.covered.length = e → s.next = mode') := by
  obtain ⟨ms, r, hr, hpath, rfl⟩ := boundary_iff.mp h
  obtain ⟨ms', r', hr', hpath', rfl⟩ := boundary_iff.mp h'
  obtain ⟨more, rfl⟩ := hpath.prefix_of_length_le hpath' (hr.symm.trans hr') hle
  cases more with
  | nil =>
    rw [List.append_nil] at hpath' ⊢
    exact .inl ⟨rfl, hpath.mode_unique hpath'⟩
  | cons m more =>
    obtain ⟨first, hmark, htakes, hrest⟩ := hpath'.of_append_cons
    obtain rfl := first.mode_unique hpath
    refine .inr ⟨m.step, coveredText more ++ r', ?_, ?_, ?_, ?_⟩
    · simp [hr']
    · have htake : text.toList.take (coveredText ms).length = coveredText ms := by
        rw [hr, List.take_left]
      rw [List.head?_append, htake]
      rw [hmark] at htakes
      exact htakes
    · simp
    · intro hend
      have hnil : more = [] := by
        have hmoves := hrest.length_le
        simp only [coveredText_append, coveredText_cons, List.length_append] at hend
        exact List.length_eq_zero_iff.mp (by omega)
      subst hnil
      cases hrest
      rfl

/-- At a boundary the lexer is in one mode. -/
theorem mode_unique (h : Boundary text n mode) (h' : Boundary text n mode') : mode = mode' := by
  rcases h.exists_step h' (Nat.le_refl n) with ⟨-, hmode⟩ | ⟨s, r, -, htakes, hend, -⟩
  · exact hmode
  · have hpos := List.length_pos_iff.mpr htakes.covered_ne_nil
    omega

end Boundary

end ScriptLexer
