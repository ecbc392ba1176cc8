/-
ScriptLexer.Run — a text read from its first character to its last.

A run is the list of moves that the lexer makes, each a step with the mark
and the mode it was made from, and the fault that ended it, if one did.
`lex` reads the tokens off a run.
-/
import ScriptLexer.Mode

namespace ScriptLexer

/-! ## Moves and runs -/

/-- A step together with where it begins and the mode it begins in. -/
structure Move where
  mark : Mark
  mode : Mode
  step : Step
  deriving DecidableEq, Repr

/-- The mark just past a move. -/
def Move.finish (m : Move) : Mark :=
  m.mark.advance m.step.covered

/-- The token that a move makes in a file, if it makes one. -/
def Move.token? (filename : String) (m : Move) : Option Token :=
  m.step.lexeme?.map fun lexeme =>
    { lexeme := String.ofList lexeme.text
      kind := lexeme.kind
      location := m.mark.location
      start := m.mark.offset
      filename }

/-- The moves that the lexer makes, and the fault that stops it. -/
structure Run where
  moves : List Move
  fault? : Option Fault
  deriving DecidableEq, Repr

namespace Run

/-- The run with a move made before it. -/
def after (m : Move) (r : Run) : Run :=
  { r with moves := m :: r.moves }

/-- The run with moves made before it, the last of which comes first. -/
def afterAll (back : List Move) (r : Run) : Run :=
  { r with moves := back.reverse ++ r.moves }

/-- The run from a mark and a mode through a text, behind moves already
made, the last of which comes first. A step that covers nothing is a fault. -/
def onward (read : Recognizer) (back : List Move) (mode : Mode) (mark : Mark)
    (input : List Char) : Run :=
  match input with
  | [] => ⟨back.reverse, mode.atEnd⟩
  | c :: cs =>
    match mode.step read mark.location c cs with
    | .error fault => ⟨back.reverse, some fault⟩
    | .ok step =>
      match step.covered with
      | [] => ⟨back.reverse, some ⟨.stuck, mark.location⟩⟩
      | _ :: more =>
        onward read (⟨mark, mode, step⟩ :: back) step.next (mark.advance step.covered)
          (cs.drop more.length)
termination_by input.length
decreasing_by simp only [List.length_drop, List.length_cons]; omega

/-- The run from a mark and a mode through a text. -/
def of (read : Recognizer) (mode : Mode) (mark : Mark) (input : List Char) : Run :=
  onward read [] mode mark input

/-- The run through a whole text. -/
def ofText (read : Recognizer) (text : String) : Run :=
  of read .code Mark.start text.toList

/-- Moves already made stay in front of the run and change nothing in it. -/
theorem onward_eq (read : Recognizer) (back : List Move) (mode : Mode) (mark : Mark)
    (input : List Char) :
    onward read back mode mark input = (of read mode mark input).afterAll back := by
  unfold of
  match input with
  | [] => simp [onward, afterAll]
  | c :: cs =>
    rw [onward, onward]
    split
    · simp [afterAll]
    · split
      · simp [afterAll]
      · next more _ =>
        rw [onward_eq read (_ :: back), onward_eq read [_]]
        simp [afterAll]
termination_by input.length
decreasing_by all_goals simp only [List.length_drop, List.length_cons]; omega

@[simp] theorem of_nil (read : Recognizer) (mode : Mode) (mark : Mark) :
    of read mode mark [] = ⟨[], mode.atEnd⟩ := by
  simp [of, onward]

/-- A run is its first move and the run after it. -/
theorem of_cons (read : Recognizer) (mode : Mode) (mark : Mark) (c : Char) (cs : List Char) :
    of read mode mark (c :: cs) =
      match mode.step read mark.location c cs with
      | .error fault => ⟨[], some fault⟩
      | .ok step =>
        match step.covered with
        | [] => ⟨[], some ⟨.stuck, mark.location⟩⟩
        | _ :: more =>
          (of read step.next (mark.advance step.covered) (cs.drop more.length)).after
            ⟨mark, mode, step⟩ := by
  unfold of
  rw [onward]
  split
  · rfl
  · split
    · rfl
    · rw [onward_eq]
      rfl

/-- The tokens that a run makes in a file. -/
def tokens (filename : String) (r : Run) : List Token :=
  r.moves.filterMap (Move.token? filename)

/-- The tokens of a run, or the error that stopped it. -/
def outcome (filename : String) (r : Run) : Except LexError (List Token) :=
  match r.fault? with
  | none => .ok (r.tokens filename)
  | some fault => .error ⟨fault.cause, filename, some fault.location⟩

end Run

/-! ## Lexing -/

/-- The tokens of a text whose ordinary code is read by `read`. -/
def lexWith (read : Recognizer) (text filename : String) : Except LexError (List Token) :=
  (Run.ofText read text).outcome filename

/-- The tokens of a script, or the first error in it. -/
def lex (text filename : String) : Except LexError (List Token) :=
  lexWith Recognizer.code text filename

end ScriptLexer
