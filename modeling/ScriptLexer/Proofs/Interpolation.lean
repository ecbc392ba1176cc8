/-
ScriptLexer.Proofs.Interpolation — where an interpolated string begins and
where it ends.

The lexer remembers two things of the string it is in: the location of the
`$` and, once it has read it, the mark that will close the string. The first
half says that what it remembers is true of the text (`OpenedAt`): a step
into an interpolated string opens it or stays in it
(`Mode.Takes.opens_or_stays`), and by induction over the path to a boundary
the `$` lies behind it, with a boundary of ordinary code in front of it.

The second half pairs the tokens of `$` and of closing marks. From inside a
string a path back to ordinary code passes its closing mark, and every `$`
before that stands in an expression of the same string
(`Path.brackets`). So the brackets of a text are those of its interpolated
strings, one after another (`lex_brackets`).
-/
import Mathlib
import ScriptLexer.Proofs.Lossless

namespace ScriptLexer

/-! ## What a mode remembers -/

namespace Mode

/-- The location of the `$` of the string that a mode is in. -/
def opened? : Mode → Option Location
  | code => none
  | literal _ opened | expression _ opened => some opened

/-- The mark that closes the string that a mode is in, if it has been read. -/
def quote? : Mode → Option Quote
  | code => none
  | literal quote? _ => quote?
  | expression q _ => some q

theorem opened?_eq_none_iff {mode : Mode} : mode.opened? = none ↔ mode = .code := by
  cases mode <;> simp [opened?]

/-- A step into an interpolated string opens it, or stays in it. One that stays
keeps the mark, or reads it if it has not been read. -/
theorem Takes.opens_or_stays {mode : Mode} {here opened : Location} {s : Step}
    {next? : Option Char} (h : mode.Takes here s next?)
    (hopened : s.next.opened? = some opened) :
    (mode = .code ∧ s.covered = ['$'] ∧ s.next = .literal none opened ∧ opened = here) ∨
    (mode.opened? = some opened ∧ ∃ q, s.next.quote? = some q ∧
      (mode.quote? = some q ∨ mode.quote? = none ∧ s.covered.head? = some q.char)) := by
  cases h with
  | token => cases hopened
  | finish => cases hopened
  | start =>
    cases hopened
    exact .inl ⟨rfl, rfl, rfl, rfl⟩
  | @inner q => exact .inr ⟨hopened, q, rfl, .inl rfl⟩
  | @nested q => exact .inr ⟨hopened, q, rfl, .inl rfl⟩
  | @close q => exact .inr ⟨hopened, q, rfl, .inl rfl⟩
  | @text _ q _ _ _ _ hentry =>
    refine .inr ⟨hopened, q, rfl, ?_⟩
    cases hentry with
    | first => exact .inr ⟨rfl, rfl⟩
    | later => exact .inl rfl
  | @brace _ q _ _ _ _ _ hentry =>
    refine .inr ⟨hopened, q, rfl, ?_⟩
    cases hentry with
    | first => exact .inr ⟨rfl, rfl⟩
    | later => exact .inl rfl

end Mode

/-! ## The `$` behind a boundary -/

section

variable {mode : Mode} {next? : Option Char} {ms : List Move} {opened : Location}

/-- What a path into an interpolated string covers: text up to a boundary in
ordinary code, the `$`, and what has been read of the string. That begins with
the mark that the mode remembers, and is empty if it remembers none. -/
theorem Path.exists_opening (h : Path .code .start ms mode next?)
    (hopened : mode.opened? = some opened) :
    ∃ before after, Path .code .start before .code (some '$') ∧
      coveredText ms = coveredText before ++ '$' :: after ∧
      opened = Location.start.advance (coveredText before) ∧
      (∀ q, mode.quote? = some q → after.head? = some q.char) ∧
      (mode.quote? = none → after = []) := by
  -- the last step of the path opens the string, or the path before it is in the string
  induction ms using List.reverseRecOn generalizing mode next? with
  | nil =>
    cases h
    cases hopened
  | append_singleton ms m ih =>
    obtain ⟨first, hmark, htakes, rfl⟩ := h.of_concat
    rcases htakes.opens_or_stays hopened with
      ⟨hcode, hcovered, hnext, hhere⟩ | ⟨hstays, q, hquote, hread⟩
    · rw [hcode, hcovered] at first
      refine ⟨ms, [], first, by simp [hcovered], ?_, ?_, fun _ => rfl⟩
      · rw [hhere, hmark]
        rfl
      · intro q hq
        rw [hnext] at hq
        cases hq
    · obtain ⟨before, after, hbefore, htext, hlocation, hafter, hunread⟩ := ih first hstays
      refine ⟨before, after ++ m.step.covered, hbefore, by simp [htext], hlocation, ?_, ?_⟩
      · intro q' hq'
        rw [hquote] at hq'
        cases hq'
        rcases hread with hkept | ⟨hnone, hhead⟩
        · simp [List.head?_append, hafter q hkept]
        · simp [hunread hnone, hhead]
      · intro hnone
        rw [hquote] at hnone
        cases hnone

end

/-- The string that a boundary at `n` lies in was opened by the `$` at `o`. The
lexer has come to the `$` in ordinary code; it remembers the location of the `$`
and, as soon as it is past it, the mark after the `$`. -/
structure OpenedAt (text : String) (n : Nat) (mode : Mode) (o : Nat) : Prop where
  lt : o < n
  dollar : text.toList[o]? = some '$'
  boundary : Boundary text o .code
  location : mode.opened? = some (Location.start.advance (text.toList.take o))
  mark : ∀ q, mode.quote? = some q → text.toList[o + 1]? = some q.char
  unread_iff : mode.quote? = none ↔ n = o + 1

theorem Boundary.exists_openedAt {text : String} {n : Nat} {mode : Mode}
    (h : Boundary text n mode) (hmode : mode ≠ .code) : ∃ o, OpenedAt text n mode o := by
  obtain ⟨ms, r, htext, hpath, rfl⟩ := boundary_iff.mp h
  obtain ⟨opened, hopened⟩ :=
    Option.ne_none_iff_exists'.mp (mt Mode.opened?_eq_none_iff.mp hmode)
  obtain ⟨before, after, hbefore, hcovered, hlocation, hmark, hunread⟩ :=
    hpath.exists_opening hopened
  rw [hcovered, List.append_assoc, List.cons_append] at htext
  refine ⟨(coveredText before).length, ?_, ?_, ?_, ?_, ?_, ?_⟩
  · simp [hcovered]
  · simp [htext]
  · exact boundary_iff.mpr ⟨before, '$' :: (after ++ r), htext, hbefore, rfl⟩
  · rw [hopened, hlocation, htext, List.take_left]
  · intro q hq
    obtain ⟨cs, rfl⟩ := List.head?_eq_some_iff.mp (hmark q hq)
    rw [htext, List.getElem?_append_right (by omega)]
    simp
  · constructor
    · intro hnone
      simp [hcovered, hunread hnone]
    · intro hlength
      have hnil : after = [] := by
        simpa [hcovered] using hlength
      by_contra hne
      obtain ⟨q, hq⟩ := Option.ne_none_iff_exists'.mp hne
      have hhead := hmark q hq
      rw [hnil] at hhead
      cases hhead

/-! ## Brackets -/

/-- The kinds of the `$` and of the mark that closes an interpolated string. -/
def TokenKind.isBracket : TokenKind → Bool
  | interpolationStart | interpolationEnd => true
  | _ => false

/-- No token that a recognizer reads is a bracket. -/
theorem Spells.not_bracket {w : List Char} {l : Lexeme} (h : Spells w l) :
    l.kind.isBracket = false := by
  cases h <;> rfl

/-- The brackets of one interpolated string, and the mark that encloses it. -/
structure Interpolation where
  quote : Quote
  first : Token
  nested : List Token
  last : Token
  deriving DecidableEq, Repr

/-- The brackets in the order of the text. -/
def Interpolation.brackets (i : Interpolation) : List Token :=
  i.first :: (i.nested ++ [i.last])

/-- The brackets behind the `$` of a string that was opened at `opened` and is
enclosed in `q`: each `$` in an expression of it, and the closing mark. -/
structure Closes (text : String) (opened : Location) (q : Quote) (nested : List Token)
    (last : Token) : Prop where
  nested : ∀ t ∈ nested, t.kind = .interpolationStart ∧
    Boundary text t.start (.expression q opened)
  kind : last.kind = .interpolationEnd
  lexeme : last.lexeme = q.char.toString
  mark : text.toList[last.start]? = some q.char
  boundary : Boundary text last.start (.literal (some q) opened)

/-- The brackets are those of an interpolated string in a text. -/
structure Interpolation.In (i : Interpolation) (text : String) : Prop where
  kind : i.first.kind = .interpolationStart
  boundary : Boundary text i.first.start .code
  mark : text.toList[i.first.start + 1]? = some i.quote.char
  closes : Closes text i.first.location i.quote i.nested i.last

/-- The brackets of interpolated strings in a text, one after another. -/
def Paired (text : String) (ts : List Token) : Prop :=
  ∃ is : List Interpolation, ts = is.flatMap Interpolation.brackets ∧ ∀ i ∈ is, i.In text

/-- The brackets `ts` are left where the lexer is in a mode with `cs` in front of
it. Inside a string they begin with the rest of the brackets of that string. -/
inductive BracketsLeft (text : String) (cs : List Char) : Mode → List Token → Prop where
  | outside {ts : List Token} : Paired text ts → BracketsLeft text cs .code ts
  | inside {mode : Mode} {opened : Location} {q : Quote} {nested ts : List Token} {last : Token} :
      mode.opened? = some opened →
      (mode.quote? = some q ∨ mode.quote? = none ∧ cs.head? = some q.char) →
      Closes text opened q nested last → Paired text ts →
      BracketsLeft text cs mode (nested ++ last :: ts)

/-- The brackets among the tokens that moves make. -/
def bracketsOf (filename : String) (ms : List Move) : List Token :=
  (ms.filterMap (Move.token? filename)).filter fun t => t.kind.isBracket

section

variable {text filename : String} {mode : Mode} {mark : Mark} {ms : List Move} {m : Move}

theorem bracketsOf_cons_of_not_bracket
    (h : ∀ l ∈ m.step.lexeme?, l.kind.isBracket = false) :
    bracketsOf filename (m :: ms) = bracketsOf filename ms := by
  cases htoken : m.token? filename with
  | none => simp [bracketsOf, htoken]
  | some t =>
    obtain ⟨l, hl, rfl⟩ := Move.token?_eq_some_iff.mp htoken
    simp [bracketsOf, htoken, h l hl]

theorem bracketsOf_cons_of_bracket {t : Token} (h : m.token? filename = some t)
    (ht : t.kind.isBracket = true) :
    bracketsOf filename (m :: ms) = t :: bracketsOf filename ms := by
  simp [bracketsOf, h, ht]

theorem BracketsLeft.paired {cs : List Char} {ts : List Token}
    (h : BracketsLeft text cs .code ts) : Paired text ts := by
  generalize hcode : Mode.code = mode at h
  cases h with
  | outside hpaired => exact hpaired
  | inside hopened =>
    subst hcode
    cases hopened

theorem BracketsLeft.exists_closes {cs : List Char} {ts : List Token} {opened : Location}
    (h : BracketsLeft text cs mode ts) (hopened : mode.opened? = some opened) :
    ∃ q nested last ts', ts = nested ++ last :: ts' ∧ Closes text opened q nested last ∧
      (mode.quote? = some q ∨ mode.quote? = none ∧ cs.head? = some q.char) ∧ Paired text ts' := by
  cases h with
  | outside => cases hopened
  | inside hopened' hquote hcloses hpaired =>
    rw [hopened] at hopened'
    cases hopened'
    exact ⟨_, _, _, _, rfl, hcloses, hquote, hpaired⟩

/-- A step that makes no bracket leaves all that were left before it. -/
theorem BracketsLeft.of_takes {here : Location} {s : Step} {next? : Option Char} {cs : List Char}
    {ts : List Token} (h : BracketsLeft text cs s.next ts) (htakes : mode.Takes here s next?)
    (hplain : ∀ l ∈ s.lexeme?, l.kind.isBracket = false) :
    BracketsLeft text (s.covered ++ cs) mode ts := by
  cases hopened : s.next.opened? with
  | none =>
    -- only a token of ordinary code leads there without a bracket
    have hcode := Mode.opened?_eq_none_iff.mp hopened
    rw [hcode] at h
    cases htakes with
    | token => exact .outside h.paired
    | finish => simp [TokenKind.isBracket] at hplain
    | _ => cases hcode
  | some opened =>
    obtain ⟨q, nested, last, ts, rfl, hcloses, hquote, hpaired⟩ := h.exists_closes hopened
    rcases htakes.opens_or_stays hopened with ⟨rfl, -, hnext, -⟩ | ⟨hstays, q', hkept, hread⟩
    · cases htakes with
      | token => cases hnext
      | start => simp [TokenKind.isBracket] at hplain
    · -- the mark that closes the string is the one that the step keeps or reads
      obtain rfl : q' = q := by simpa [hkept] using hquote
      refine .inside hstays (hread.imp_right fun hread => ⟨hread.1, ?_⟩) hcloses hpaired
      simp [List.head?_append, hread.2]

/-- The `$` of an interpolated string is the first of its brackets. -/
theorem BracketsLeft.start {cs : List Char} {ts : List Token} {t : Token}
    (h : BracketsLeft text cs (.literal none t.location) ts) (hkind : t.kind = .interpolationStart)
    (hboundary : Boundary text t.start .code) (hcs : text.toList.drop (t.start + 1) = cs) :
    Paired text (t :: ts) := by
  obtain ⟨q, nested, last, ts, rfl, hcloses, hquote, is, rfl, his⟩ := h.exists_closes rfl
  have hhead : cs.head? = some q.char := by simpa [Mode.quote?] using hquote
  refine ⟨⟨q, t, nested, last⟩ :: is, by simp [Interpolation.brackets], ?_⟩
  refine List.forall_mem_cons.mpr ⟨⟨hkind, hboundary, ?_, hcloses⟩, his⟩
  rw [← hhead, ← hcs, List.head?_drop]

/-- A `$` in an expression is one of the brackets of the string around it. -/
theorem BracketsLeft.nested {cs cs' : List Char} {ts : List Token} {t : Token} {q : Quote}
    {opened : Location} (h : BracketsLeft text cs (.expression q opened) ts)
    (hkind : t.kind = .interpolationStart)
    (hboundary : Boundary text t.start (.expression q opened)) :
    BracketsLeft text cs' (.expression q opened) (t :: ts) := by
  obtain ⟨q', nested, last, ts, rfl, hcloses, hquote, hpaired⟩ := h.exists_closes rfl
  obtain rfl : q = q' := by simpa [Mode.quote?] using hquote
  rw [← List.cons_append]
  refine .inside rfl (.inl rfl) { hcloses with nested := ?_ } hpaired
  exact List.forall_mem_cons.mpr ⟨⟨hkind, hboundary⟩, hcloses.nested⟩

/-- A closing mark is the last bracket of its string. -/
theorem BracketsLeft.finish {cs cs' : List Char} {ts : List Token} {t : Token} {q : Quote}
    {opened : Location} (h : BracketsLeft text cs .code ts) (hkind : t.kind = .interpolationEnd)
    (hlexeme : t.lexeme = q.char.toString) (hmark : text.toList[t.start]? = some q.char)
    (hboundary : Boundary text t.start (.literal (some q) opened)) :
    BracketsLeft text cs' (.literal (some q) opened) (t :: ts) := by
  have hcloses : Closes text opened q [] t := ⟨by simp, hkind, hlexeme, hmark, hboundary⟩
  exact .inside rfl (.inl rfl) hcloses h.paired

/-- The brackets on a path to the end of a text. -/
theorem Path.brackets (h : Path mode mark ms .code none)
    (htext : text.toList.drop mark.offset = coveredText ms)
    (hboundary : ∀ m ∈ ms, Boundary text m.mark.offset m.mode) :
    BracketsLeft text (coveredText ms) mode (bracketsOf filename ms) := by
  generalize hcode : Mode.code = mode' at h
  generalize hend : (none : Option Char) = next? at h
  induction h with
  | nil =>
    subst hcode
    exact .outside ⟨[], rfl, by simp⟩
  | @cons mode mode' mark s ms next? htakes _ ih =>
    have hhere : Boundary text mark.offset mode := hboundary ⟨mark, mode, s⟩ List.mem_cons_self
    have hrest := drop_of_coveredText_cons htext
    have hleft := ih hrest (fun m hm => hboundary m (List.mem_cons_of_mem _ hm)) hcode hend
    by_cases hplain : ∀ l ∈ s.lexeme?, l.kind.isBracket = false
    · rw [bracketsOf_cons_of_not_bracket hplain]
      exact hleft.of_takes htakes hplain
    generalize (coveredText ms).head?.or next? = following at htakes
    cases htakes with
    | token hspells | inner hspells => simp [hspells.not_bracket] at hplain
    | close => simp at hplain
    | text | brace => simp [TokenKind.isBracket] at hplain
    | start =>
      rw [bracketsOf_cons_of_bracket rfl rfl]
      exact .outside (hleft.start rfl hhere hrest)
    | nested =>
      rw [bracketsOf_cons_of_bracket rfl rfl]
      exact hleft.nested rfl hhere
    | @finish q opened =>
      rw [bracketsOf_cons_of_bracket rfl rfl]
      have hmark : text.toList[mark.offset]? = some q.char := by
        rw [← List.head?_drop, htext]
        rfl
      exact hleft.finish rfl (by cases q <;> rfl) hmark hhere

end

/-! ## The law -/

/-- **Interpolated strings have a beginning and an end**: at every boundary
inside one there is a `$` behind it, at which the lexer was in ordinary code, and
what the mode remembers is the location of the `$` and the mark after it. The
brackets of a text that lexes are one `$`, any `$` in the expressions of its
string, and the mark that closes it, which is the one after the first `$`, again
and again. -/
theorem lex_brackets (text filename : String) :
    (∀ n mode, Boundary text n mode → mode ≠ .code → ∃ o, OpenedAt text n mode o) ∧
    ∀ ts, lex text filename = .ok ts →
      ∃ is : List Interpolation, (ts.filter fun t => t.kind.isBracket) =
        is.flatMap Interpolation.brackets ∧ ∀ i ∈ is, i.In text := by
  refine ⟨fun n mode h hmode => h.exists_openedAt hmode, ?_⟩
  intro ts h
  obtain ⟨ms, hpath, htext, rfl⟩ := lex_eq_ok_iff.mp h
  have hboundary := hpath.boundary_of_mem (r := []) (by simpa using htext)
  exact (hpath.brackets (by simpa [Mark.start] using htext) hboundary).paired

/-- A `$` in an expression, whose string holds a `}` and the other mark, and an
empty string after that. -/
theorem lex_brackets_nested :
    (Boundary "$'\x7b$\"\x7d\"\x7d'$\"\"" 7 (.expression .single ⟨1, 1⟩) ∧
      ∃ o, OpenedAt "$'\x7b$\"\x7d\"\x7d'$\"\"" 7 (.expression .single ⟨1, 1⟩) o) ∧
    ∃ ts, lex "$'\x7b$\"\x7d\"\x7d'$\"\"" "a.mcl" = .ok ts ∧
      (ts.filter fun t => t.kind.isBracket).map Token.start = [0, 3, 8, 9, 11] ∧
      ∃ is : List Interpolation, (ts.filter fun t => t.kind.isBracket) =
        is.flatMap Interpolation.brackets ∧ ∀ i ∈ is, i.In "$'\x7b$\"\x7d\"\x7d'$\"\"" := by
  have hboundary : Boundary "$'\x7b$\"\x7d\"\x7d'$\"\"" 7 (.expression .single ⟨1, 1⟩) :=
    .of_finish (k := 3) (by cbv)
  have h : lex "$'\x7b$\"\x7d\"\x7d'$\"\"" "a.mcl" = .ok
      [⟨"$", .interpolationStart, ⟨1, 1⟩, 0, "a.mcl"⟩, ⟨"$", .interpolationStart, ⟨1, 4⟩, 3, "a.mcl"⟩,
        ⟨"\x7d", .string, ⟨1, 5⟩, 4, "a.mcl"⟩, ⟨"'", .interpolationEnd, ⟨1, 9⟩, 8, "a.mcl"⟩,
        ⟨"$", .interpolationStart, ⟨1, 10⟩, 9, "a.mcl"⟩, ⟨"", .string, ⟨1, 11⟩, 10, "a.mcl"⟩,
        ⟨"\"", .interpolationEnd, ⟨1, 12⟩, 11, "a.mcl"⟩] := by
    cbv
  exact ⟨⟨hboundary, (lex_brackets _ "a.mcl").1 _ _ hboundary (by simp)⟩, _, h, by decide,
    (lex_brackets _ "a.mcl").2 _ h⟩

end ScriptLexer
