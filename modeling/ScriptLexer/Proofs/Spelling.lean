/-
ScriptLexer.Proofs.Spelling — what a token of ordinary code looks like.

`Spells w l` is the lexical grammar: the characters `w` are one whole token
with lexeme `l`. `Lexeme.Fuses l c` says which characters go on with a token
instead of starting the next one, and `Unclosed` which comments anything
goes on with. The main statement, `code_eq_accepted_iff`, says that the
recognizer of ordinary code accepts exactly the tokens of the grammar that
the next character does not fuse with. So it looks one character past what
it accepts and no further. `code_eq_declined_iff` and `code_eq_refused_iff`
say when it does anything else.
-/
import ScriptLexer.Proofs.Initial
import ScriptLexer.Proofs.Literal

namespace ScriptLexer

/-! ## The grammar -/

/-- The characters of one token of ordinary code, and its lexeme. Only the
lexeme of a string differs from the characters. -/
inductive Spells : List Char → Lexeme → Prop where
  | whitespace {w : List Char} : w ≠ [] → (∀ c ∈ w, isSpace c = true) →
      Spells w ⟨.whitespace, w⟩
  | string (q : Quote) {b : List Char} : q.Body b →
      Spells (q.char :: b ++ [q.char]) ⟨.string, Text.decode b⟩
  | number {ds : List Char} : ds ≠ [] → (∀ c ∈ ds, c.isDigit = true) →
      Spells ds ⟨.number, ds⟩
  | decimal {ds fs : List Char} : ds ≠ [] → (∀ c ∈ ds, c.isDigit = true) →
      (∀ c ∈ fs, c.isDigit = true) → Spells (ds ++ '.' :: fs) ⟨.number, ds ++ '.' :: fs⟩
  | operator {c : Char} : isOperator c = true → Spells [c] ⟨.operator, [c]⟩
  | operatorEquals {c : Char} : isOperator c = true → Spells [c, '='] ⟨.operator, [c, '=']⟩
  | arrow : Spells ['=', '>'] ⟨.operator, ['=', '>']⟩
  | identifier {c : Char} {cs : List Char} : isWordStart c = true →
      (∀ d ∈ cs, isWordPart d = true) → Spells (c :: cs) ⟨.identifier, c :: cs⟩
  | punctuation {c : Char} : isPunctuation c = true → Spells [c] ⟨.punctuation, [c]⟩
  | line {cs : List Char} : '\n' ∉ cs →
      Spells ('/' :: '/' :: (cs ++ ['\n'])) ⟨.comment, '/' :: '/' :: (cs ++ ['\n'])⟩
  | openLine {cs : List Char} : '\n' ∉ cs → Spells ('/' :: '/' :: cs) ⟨.comment, '/' :: '/' :: cs⟩
  | block {cs : List Char} : ¬ ['*', '/'] <:+: cs ++ ['*'] →
      Spells ('/' :: '*' :: (cs ++ ['*', '/'])) ⟨.comment, '/' :: '*' :: (cs ++ ['*', '/'])⟩
  | openBlock {cs : List Char} : ¬ ['*', '/'] <:+: cs →
      Spells ('/' :: '*' :: cs) ⟨.comment, '/' :: '*' :: cs⟩

/-- A comment that ends only with the text: a line comment without its
newline, or a block comment without a `*/` of its own. -/
def Unclosed (w : List Char) : Prop :=
  (['/', '/'] <+: w ∧ w.getLast? ≠ some '\n') ∨
    (['/', '*'] <+: w ∧ (w.length < 4 ∨ ¬ ['*', '/'] <:+ w))

instance (w : List Char) : Decidable (Unclosed w) :=
  inferInstanceAs (Decidable (_ ∨ _))

/-- Whether `c` right after a token goes on with it. -/
def Lexeme.Fuses (l : Lexeme) (c : Char) : Prop :=
  (l.kind = .whitespace ∧ isSpace c = true) ∨
  (l.kind = .identifier ∧ isWordPart c = true) ∨
  (l.kind = .number ∧ (c.isDigit = true ∨ c = '.' ∧ '.' ∉ l.text)) ∨
  (l.kind = .operator ∧ l.text.length = 1 ∧
    (c = '=' ∨ (l.text = ['='] ∧ c = '>') ∨ (l.text = ['/'] ∧ (c = '/' ∨ c = '*')))) ∨
  (l.kind = .comment ∧ Unclosed l.text)

instance (l : Lexeme) (c : Char) : Decidable (l.Fuses c) :=
  inferInstanceAs (Decidable (_ ∨ _))

/-! ### Fusing, kind by kind -/

section Fuses

variable {w : List Char} {c : Char}

@[simp] theorem fuses_whitespace : (⟨.whitespace, w⟩ : Lexeme).Fuses c ↔ isSpace c = true := by
  simp [Lexeme.Fuses]

@[simp] theorem fuses_identifier : (⟨.identifier, w⟩ : Lexeme).Fuses c ↔ isWordPart c = true := by
  simp [Lexeme.Fuses]

@[simp] theorem fuses_number :
    (⟨.number, w⟩ : Lexeme).Fuses c ↔ c.isDigit = true ∨ c = '.' ∧ '.' ∉ w := by
  simp [Lexeme.Fuses]

@[simp] theorem fuses_operator : (⟨.operator, w⟩ : Lexeme).Fuses c ↔ w.length = 1 ∧
    (c = '=' ∨ (w = ['='] ∧ c = '>') ∨ (w = ['/'] ∧ (c = '/' ∨ c = '*'))) := by
  simp [Lexeme.Fuses]

@[simp] theorem fuses_comment : (⟨.comment, w⟩ : Lexeme).Fuses c ↔ Unclosed w := by
  simp [Lexeme.Fuses]

@[simp] theorem not_fuses_string : ¬ (⟨.string, w⟩ : Lexeme).Fuses c := by
  simp [Lexeme.Fuses]

@[simp] theorem not_fuses_punctuation : ¬ (⟨.punctuation, w⟩ : Lexeme).Fuses c := by
  simp [Lexeme.Fuses]

/-- A `}` goes on with no token but an unclosed comment. -/
theorem fuses_closeBrace_iff {l : Lexeme} :
    l.Fuses '\x7d' ↔ l.kind = .comment ∧ Unclosed l.text := by
  have hspace : isSpace '\x7d' = false := by decide
  have hword : isWordPart '\x7d' = false := by decide
  have hdigit : Char.isDigit '\x7d' = false := by decide
  simp [Lexeme.Fuses, hspace, hword, hdigit]

end Fuses

/-! ## Comments -/

/-- `*/` in a text either begins it or lies in the rest. -/
theorem close_infix_cons_iff {c : Char} {cs : List Char} :
    ['*', '/'] <:+: c :: cs ↔ (c = '*' ∧ cs.head? = some '/') ∨ ['*', '/'] <:+: cs := by
  rw [List.infix_cons_iff, List.cons_prefix_cons]
  cases cs with
  | nil => simp
  | cons d ds => simp [List.cons_prefix_cons, eq_comm]

/-- A `*` after a text without `*/` makes none. -/
theorem close_not_infix_append_star {cs : List Char} (h : ¬ ['*', '/'] <:+: cs) :
    ¬ ['*', '/'] <:+: cs ++ ['*'] := by
  induction cs with
  | nil => decide
  | cons c cs ih =>
    rw [close_infix_cons_iff, not_or] at h
    rw [List.cons_append, close_infix_cons_iff, not_or]
    refine ⟨?_, ih h.2⟩
    cases cs with
    | nil => simp
    | cons d ds => simpa using h.1

theorem not_unclosed_line (cs : List Char) : ¬ Unclosed ('/' :: '/' :: (cs ++ ['\n'])) := by
  have hlast : ('/' :: '/' :: (cs ++ ['\n'])).getLast? = some '\n' := by
    rw [← List.cons_append, ← List.cons_append, List.getLast?_concat]
  simp [Unclosed, List.cons_prefix_cons, hlast]

theorem unclosed_openLine {cs : List Char} (h : '\n' ∉ cs) : Unclosed ('/' :: '/' :: cs) := by
  refine .inl ⟨by simp, ?_⟩
  intro hlast
  have hmem : '\n' ∈ '/' :: '/' :: cs := List.mem_of_getLast? hlast
  simp [h] at hmem

theorem not_unclosed_block (cs : List Char) :
    ¬ Unclosed ('/' :: '*' :: (cs ++ ['*', '/'])) := by
  have hend : ['*', '/'] <:+ '/' :: '*' :: (cs ++ ['*', '/']) :=
    ⟨'/' :: '*' :: cs, by simp⟩
  simp [Unclosed, List.cons_prefix_cons, hend]

/-- A `*/` at the end of an open block comment would overlap its `/*`. -/
theorem unclosed_openBlock {cs : List Char} (h : ¬ ['*', '/'] <:+: cs) :
    Unclosed ('/' :: '*' :: cs) := by
  refine .inr ⟨by simp, ?_⟩
  by_cases hlen : ('/' :: '*' :: cs).length < 4
  · exact .inl hlen
  · refine .inr fun hend => h (List.IsSuffix.isInfix ?_)
    have hcs : cs <:+ '/' :: '*' :: cs := ⟨['/', '*'], rfl⟩
    refine List.suffix_of_suffix_length_le hend hcs ?_
    simp only [List.length_cons, List.length_nil] at hlen ⊢
    omega

namespace Recognizer

open Reading (verbatim)

theorem ne_newline_of_not_mem {line : List Char} (h : '\n' ∉ line) :
    ∀ c ∈ line, (c != '\n') = true := by
  intro c hc
  rw [bne_iff_ne]
  intro hnewline
  rw [hnewline] at hc
  exact h hc

theorem throughNewline_append {line : List Char} (h : '\n' ∉ line) (r : List Char) :
    throughNewline (line ++ '\n' :: r) = line ++ ['\n'] := by
  have hline := ne_newline_of_not_mem h
  rw [throughNewline, List.takeWhile_append_of_pos hline, List.dropWhile_append_of_pos hline]
  simp

theorem throughNewline_of_not_mem {line : List Char} (h : '\n' ∉ line) :
    throughNewline line = line := by
  have hline := ne_newline_of_not_mem h
  have htake : (line ++ []).takeWhile (· != '\n') = line ++ [].takeWhile (· != '\n') :=
    List.takeWhile_append_of_pos hline
  have hdrop : (line ++ []).dropWhile (· != '\n') = [].dropWhile (· != '\n') :=
    List.dropWhile_append_of_pos hline
  simp only [List.append_nil, List.takeWhile_nil, List.dropWhile_nil] at htake hdrop
  simp [throughNewline, htake, hdrop]

theorem throughClose_append {body : List Char} (h : ¬ ['*', '/'] <:+: body ++ ['*'])
    (r : List Char) : throughClose (body ++ '*' :: '/' :: r) = body ++ ['*', '/'] := by
  induction body with
  | nil => rfl
  | cons c body ih =>
    rw [List.cons_append, close_infix_cons_iff, not_or] at h
    have hpair : ∀ tail, c = '*' → body ++ '*' :: '/' :: r = '/' :: tail → False := by
      intro tail hc htail
      refine h.1 ⟨hc, ?_⟩
      cases body with
      | nil => simp at htail
      | cons d ds => simpa using (List.cons.inj htail).1
    rw [List.cons_append, throughClose.eq_3 _ _ hpair, ih h.2, List.cons_append]

theorem throughClose_of_not_infix {cs : List Char} (h : ¬ ['*', '/'] <:+: cs) :
    throughClose cs = cs := by
  induction cs with
  | nil => rfl
  | cons c cs ih =>
    rw [close_infix_cons_iff, not_or] at h
    have hpair : ∀ tail, c = '*' → cs = '/' :: tail → False := by
      intro tail hc hcs
      rw [hcs] at h
      exact h.1 ⟨hc, rfl⟩
    rw [throughClose.eq_3 _ _ hpair, ih h.2]

/-- A text that holds `*/` is cut at the first one. -/
theorem exists_first_close {cs : List Char} (h : ['*', '/'] <:+: cs) :
    ∃ body r, cs = body ++ '*' :: '/' :: r ∧ ¬ ['*', '/'] <:+: body ++ ['*'] := by
  induction cs with
  | nil => simp at h
  | cons c cs ih =>
    by_cases hhead : c = '*' ∧ cs.head? = some '/'
    · obtain ⟨rfl, hslash⟩ := hhead
      obtain ⟨r, rfl⟩ := List.head?_eq_some_iff.mp hslash
      exact ⟨[], r, rfl, by decide⟩
    · obtain ⟨body, r, rfl, hbody⟩ := ih ((close_infix_cons_iff.mp h).resolve_left hhead)
      refine ⟨c :: body, r, rfl, ?_⟩
      rw [List.cons_append, close_infix_cons_iff, not_or]
      refine ⟨?_, hbody⟩
      cases body with
      | nil => simp
      | cons d ds => simpa using hhead

/-! ## What is read is spelled by the grammar -/

/-- A token of the grammar at the beginning of a text, with which the next
character does not fuse. -/
def Reads (cs w : List Char) (l : Lexeme) : Prop :=
  Spells w l ∧ ∃ r, cs = w ++ r ∧ ∀ c ∈ r.head?, ¬ l.Fuses c

/-- Acceptance of such a token whose lexeme is its characters. -/
def AcceptsVerbatim (reading : Reading) (cs : List Char) : Prop :=
  ∃ kind w, reading = verbatim kind w ∧ Reads cs w ⟨kind, w⟩

/-- What stops a run of characters of a class is not in the class. -/
theorem of_mem_head?_dropWhile {p : Char → Bool} {cs : List Char} {c : Char}
    (h : c ∈ (cs.dropWhile p).head?) : p c = false := by
  have := List.head?_dropWhile_not p cs
  rw [h] at this
  exact this

theorem of_mem_takeWhile {p : Char → Bool} {cs : List Char} {c : Char}
    (h : c ∈ cs.takeWhile p) : p c = true :=
  List.all_eq_true.mp List.all_takeWhile c h

theorem whitespace_reads {c : Char} (cs : List Char) (h : isSpace c = true) :
    AcceptsVerbatim (whitespace (c :: cs)) (c :: cs) := by
  have hrun : (c :: cs).takeWhile isSpace = c :: cs.takeWhile isSpace := by simp [h]
  refine ⟨.whitespace, c :: cs.takeWhile isSpace, by rw [whitespace, hrun], ?_, ?_⟩
  · refine .whitespace (by simp) ?_
    rw [← hrun]
    exact fun d hd => of_mem_takeWhile hd
  · refine ⟨cs.dropWhile isSpace, by simp, ?_⟩
    intro d hd
    simp [of_mem_head?_dropWhile hd]

theorem identifier_reads {c : Char} (cs : List Char) (h : isWordStart c = true) :
    AcceptsVerbatim (identifier (c :: cs)) (c :: cs) := by
  refine ⟨.identifier, c :: cs.takeWhile isWordPart, by simp [identifier, h], ?_, ?_⟩
  · exact .identifier h fun d hd => of_mem_takeWhile hd
  · refine ⟨cs.dropWhile isWordPart, by simp, ?_⟩
    intro d hd
    simp [of_mem_head?_dropWhile hd]

theorem punctuation_reads {c : Char} (cs : List Char) (h : isPunctuation c = true) :
    AcceptsVerbatim (punctuation (c :: cs)) (c :: cs) :=
  ⟨.punctuation, [c], by simp [punctuation, h], .punctuation h, cs, rfl, by simp⟩

/-- A whole number holds no decimal point. -/
theorem point_not_mem_of_digits {ds : List Char} (h : ∀ c ∈ ds, c.isDigit = true) :
    '.' ∉ ds := fun hmem => absurd (h '.' hmem) (by decide)

theorem number_reads {c : Char} (cs : List Char) (h : c.isDigit = true) :
    AcceptsVerbatim (number (c :: cs)) (c :: cs) := by
  have hrun : (c :: cs).takeWhile Char.isDigit = c :: cs.takeWhile Char.isDigit := by simp [h]
  have hrest : (c :: cs).dropWhile Char.isDigit = cs.dropWhile Char.isDigit := by simp [h]
  have hwhole : ∀ d ∈ c :: cs.takeWhile Char.isDigit, d.isDigit = true := by
    rw [← hrun]
    exact fun d hd => of_mem_takeWhile hd
  have hcut : c :: cs = c :: cs.takeWhile Char.isDigit ++ cs.dropWhile Char.isDigit := by simp
  have hstop : ∀ d ∈ (cs.dropWhile Char.isDigit).head?, d.isDigit = false :=
    fun d hd => of_mem_head?_dropWhile hd
  generalize cs.takeWhile Char.isDigit = ds at hrun hwhole hcut
  generalize cs.dropWhile Char.isDigit = r at hrest hcut hstop
  by_cases hpoint : r.head? = some '.'
  · obtain ⟨fs, rfl⟩ := List.head?_eq_some_iff.mp hpoint
    refine ⟨.number, c :: ds ++ '.' :: fs.takeWhile Char.isDigit, ?_, ?_, ?_⟩
    · simp [number, hrun, hrest, fraction]
    · exact .decimal (by simp) hwhole fun d hd => of_mem_takeWhile hd
    · refine ⟨fs.dropWhile Char.isDigit, by simp [hcut], ?_⟩
      intro d hd
      simp [of_mem_head?_dropWhile hd]
  · have hfraction : fraction r = [] := by
      unfold fraction
      split
      · simp at hpoint
      · rfl
    refine ⟨.number, c :: ds, ?_, .number (by simp) hwhole, r, hcut, ?_⟩
    · simp [number, hrun, hrest, hfraction]
    · intro d hd
      have hd' : d ≠ '.' := by
        intro hd'
        rw [hd'] at hd
        exact hpoint hd
      simp [hstop d hd, hd']

theorem comment_line_reads (cs : List Char) :
    AcceptsVerbatim (comment ('/' :: '/' :: cs)) ('/' :: '/' :: cs) := by
  by_cases h : '\n' ∈ cs
  · obtain ⟨line, r, rfl, hline⟩ := List.eq_append_cons_of_mem h
    refine ⟨.comment, '/' :: '/' :: (line ++ ['\n']), ?_, .line hline, r, by simp, ?_⟩
    · rw [comment, throughNewline_append hline]
    · simp [not_unclosed_line]
  · refine ⟨.comment, '/' :: '/' :: cs, ?_, .openLine h, [], by simp, by simp⟩
    rw [comment, throughNewline_of_not_mem h]

theorem comment_block_reads (cs : List Char) :
    AcceptsVerbatim (comment ('/' :: '*' :: cs)) ('/' :: '*' :: cs) := by
  by_cases h : ['*', '/'] <:+: cs
  · obtain ⟨body, r, rfl, hbody⟩ := exists_first_close h
    refine ⟨.comment, '/' :: '*' :: (body ++ ['*', '/']), ?_, .block hbody, r, by simp, ?_⟩
    · rw [comment, throughClose_append hbody]
    · simp [not_unclosed_block]
  · refine ⟨.comment, '/' :: '*' :: cs, ?_, .openBlock h, [], by simp, by simp⟩
    rw [comment, throughClose_of_not_infix h]

theorem operator_equals {c : Char} (h : isOperator c = true) (cs : List Char) :
    operator (c :: '=' :: cs) = verbatim .operator [c, '='] := by
  unfold operator
  split <;> grind

/-- An operator character stands alone before what does not fuse with it. -/
theorem operator_single {c : Char} (h : isOperator c = true) {cs : List Char}
    (hcs : ∀ d ∈ cs.head?, ¬ (⟨.operator, [c]⟩ : Lexeme).Fuses d) :
    operator (c :: cs) = verbatim .operator [c] := by
  unfold operator
  split <;> simp_all

theorem operatorOrComment_reads {c : Char} (cs : List Char) (h : isOperator c = true) :
    AcceptsVerbatim (operatorOrComment (c :: cs)) (c :: cs) := by
  -- what follows decides: a comment, two characters, or one
  by_cases hline : c = '/' ∧ cs.head? = some '/'
  · obtain ⟨rfl, hhead⟩ := hline
    obtain ⟨ds, rfl⟩ := List.head?_eq_some_iff.mp hhead
    exact comment_line_reads ds
  by_cases hblock : c = '/' ∧ cs.head? = some '*'
  · obtain ⟨rfl, hhead⟩ := hblock
    obtain ⟨ds, rfl⟩ := List.head?_eq_some_iff.mp hhead
    exact comment_block_reads ds
  by_cases hequals : cs.head? = some '='
  · obtain ⟨ds, rfl⟩ := List.head?_eq_some_iff.mp hequals
    refine ⟨.operator, [c, '='], ?_, .operatorEquals h, ds, rfl, by simp⟩
    simp [operatorOrComment, firstOf, operator_equals h, verbatim]
  by_cases harrow : c = '=' ∧ cs.head? = some '>'
  · obtain ⟨rfl, hhead⟩ := harrow
    obtain ⟨ds, rfl⟩ := List.head?_eq_some_iff.mp hhead
    exact ⟨.operator, ['=', '>'], rfl, .arrow, ds, rfl, by simp⟩
  · have happart : ∀ d ∈ cs.head?, ¬ (⟨.operator, [c]⟩ : Lexeme).Fuses d := by
      intro d hd
      have hd' : cs.head? = some d := hd
      simp_all
    refine ⟨.operator, [c], ?_, .operator h, cs, rfl, happart⟩
    simp [operatorOrComment, firstOf, operator_single h happart, verbatim]

/-- What begins with a character of a class is read, unless it begins a
string. -/
theorem ofInitial_reads {c : Char} {i : Initial} (cs : List Char) (h : initial? c = some i)
    (hi : i ≠ .quote) : AcceptsVerbatim (ofInitial i (c :: cs)) (c :: cs) := by
  have hc := initial?_eq_some_iff.mp h
  cases i with
  | space => exact whitespace_reads cs hc
  | quote => exact absurd rfl hi
  | digit => exact number_reads cs hc
  | operator => exact operatorOrComment_reads cs hc
  | word => exact identifier_reads cs hc
  | punctuation => exact punctuation_reads cs hc

/-! ## What the grammar spells is read -/

theorem code_of_initial? {c : Char} {i : Initial} (h : initial? c = some i) (cs : List Char) :
    code (c :: cs) = ofInitial i (c :: cs) := by
  rw [code_cons, h]

theorem code_quote (q : Quote) (cs : List Char) :
    code (q.char :: cs) = match q.body? cs with
      | none => .refused (.unterminatedString q.char)
      | some b => .accepted ⟨.string, Text.decode b⟩ (q.char :: b ++ [q.char]) := by
  rw [code_of_initial? (initial?_quote q), ofInitial]
  cases hb : q.body? cs with
  | none => simp [string, hb]
  | some b => simp [string, hb]

/-- Where a run of characters of a class stops, the rest goes on with none. -/
theorem takeWhile_append_of_stop {p : Char → Bool} {w r : List Char}
    (hw : ∀ c ∈ w, p c = true) (hr : ∀ c ∈ r.head?, ¬ p c = true) :
    (w ++ r).takeWhile p = w ∧ (w ++ r).dropWhile p = r := by
  rw [List.takeWhile_append_of_pos hw, List.dropWhile_append_of_pos hw]
  cases r with
  | nil => simp
  | cons c cs => simp [hr c rfl]

theorem code_whitespace {w r : List Char} (hne : w ≠ []) (hw : ∀ c ∈ w, isSpace c = true)
    (hr : ∀ c ∈ r.head?, ¬ isSpace c = true) : code (w ++ r) = verbatim .whitespace w := by
  obtain ⟨c, cs, rfl⟩ := List.exists_cons_of_ne_nil hne
  have hc := initial?_of_isSpace (hw c List.mem_cons_self)
  obtain ⟨htake, -⟩ := takeWhile_append_of_stop hw hr
  rw [List.cons_append] at htake
  rw [List.cons_append, code_of_initial? hc, ofInitial, whitespace, htake]

theorem code_identifier {c : Char} {cs r : List Char} (hc : isWordStart c = true)
    (hcs : ∀ d ∈ cs, isWordPart d = true) (hr : ∀ d ∈ r.head?, ¬ isWordPart d = true) :
    code (c :: cs ++ r) = verbatim .identifier (c :: cs) := by
  obtain ⟨htake, -⟩ := takeWhile_append_of_stop hcs hr
  rw [List.cons_append, code_of_initial? (initial?_of_isWordStart hc), ofInitial, identifier,
    if_pos hc, htake]

/-- Digits are read as far as they go, and the fraction after them. -/
theorem code_digits {ds r : List Char} (hne : ds ≠ []) (hds : ∀ c ∈ ds, c.isDigit = true)
    (hr : ∀ c ∈ r.head?, ¬ c.isDigit = true) :
    code (ds ++ r) = verbatim .number (ds ++ fraction r) := by
  obtain ⟨c, cs, rfl⟩ := List.exists_cons_of_ne_nil hne
  have hc := initial?_of_isDigit (hds c List.mem_cons_self)
  obtain ⟨htake, hdrop⟩ := takeWhile_append_of_stop hds hr
  rw [List.cons_append] at htake hdrop
  rw [List.cons_append, code_of_initial? hc, ofInitial, number, htake, hdrop]

/-- Only a decimal point begins a fraction. -/
theorem fraction_of_head?_ne {r : List Char} (h : r.head? ≠ some '.') : fraction r = [] := by
  unfold fraction
  split
  · simp at h
  · rfl

theorem code_number {ds r : List Char} (hne : ds ≠ []) (hds : ∀ c ∈ ds, c.isDigit = true)
    (hr : ∀ c ∈ r.head?, ¬ (⟨.number, ds⟩ : Lexeme).Fuses c) :
    code (ds ++ r) = verbatim .number ds := by
  have hstop : ∀ c ∈ r.head?, ¬ c.isDigit = true := by
    intro c hc hdigit
    exact hr c hc (fuses_number.mpr (.inl hdigit))
  have hpoint : r.head? ≠ some '.' := by
    intro hpoint
    exact hr '.' hpoint (fuses_number.mpr (.inr ⟨rfl, point_not_mem_of_digits hds⟩))
  rw [code_digits hne hds hstop, fraction_of_head?_ne hpoint, List.append_nil]

theorem code_decimal {ds fs r : List Char} (hne : ds ≠ []) (hds : ∀ c ∈ ds, c.isDigit = true)
    (hfs : ∀ c ∈ fs, c.isDigit = true) (hr : ∀ c ∈ r.head?, ¬ c.isDigit = true) :
    code (ds ++ '.' :: fs ++ r) = verbatim .number (ds ++ '.' :: fs) := by
  obtain ⟨hfraction, -⟩ := takeWhile_append_of_stop hfs hr
  rw [List.append_assoc, List.cons_append, code_digits hne hds (by simp), fraction, hfraction]

/-- What follows an unclosed comment is nothing. -/
theorem eq_nil_of_unclosed {w r : List Char} (hw : Unclosed w)
    (hr : ∀ c ∈ r.head?, ¬ (⟨.comment, w⟩ : Lexeme).Fuses c) : r = [] := by
  cases r with
  | nil => rfl
  | cons d ds => exact absurd (fuses_comment.mpr hw) (hr d rfl)

theorem code_comment {c : Char} (cs : List Char) (hc : c = '/' ∨ c = '*') :
    code ('/' :: c :: cs) = comment ('/' :: c :: cs) := by
  rw [code_of_initial? (i := .operator) (by decide), ofInitial]
  rcases hc with rfl | rfl
  · simp [operatorOrComment, firstOf, operator, comment, verbatim]
  · simp [operatorOrComment, firstOf, operator, comment, verbatim]

/-- A token of the grammar is accepted before what does not fuse with it. -/
theorem code_append {w r : List Char} {l : Lexeme} (h : Spells w l)
    (hr : ∀ c ∈ r.head?, ¬ l.Fuses c) : code (w ++ r) = .accepted l w := by
  cases h with
  | whitespace hne hw => exact code_whitespace hne hw (by simpa using hr)
  | @string q b hb =>
    have hbody := Quote.body?_append_mark hb r
    simp only [List.cons_append, List.append_assoc, List.nil_append]
    rw [code_quote, hbody]
    simp
  | number hne hds => exact code_number hne hds hr
  | decimal hne hds hfs =>
    refine code_decimal hne hds hfs ?_
    intro c hc hdigit
    exact hr c hc (fuses_number.mpr (.inl hdigit))
  | operator ho =>
    rw [List.cons_append, List.nil_append, code_of_initial? (initial?_of_isOperator ho),
      ofInitial]
    simp [operatorOrComment, firstOf, operator_single ho hr, verbatim]
  | operatorEquals ho =>
    simp only [List.cons_append, List.nil_append]
    rw [code_of_initial? (initial?_of_isOperator ho), ofInitial]
    simp [operatorOrComment, firstOf, operator_equals ho, verbatim]
  | arrow => rfl
  | identifier hc hcs => exact code_identifier hc hcs (by simpa using hr)
  | punctuation hc =>
    rw [List.cons_append, List.nil_append, code_of_initial? (initial?_of_isPunctuation hc),
      ofInitial, punctuation, if_pos hc]
    rfl
  | line hcs =>
    simp only [List.cons_append, List.append_assoc, List.nil_append]
    rw [code_comment _ (.inl rfl), comment, throughNewline_append hcs]
    rfl
  | openLine hcs =>
    rw [eq_nil_of_unclosed (unclosed_openLine hcs) hr, List.append_nil,
      code_comment _ (.inl rfl), comment, throughNewline_of_not_mem hcs]
    rfl
  | block hcs =>
    simp only [List.cons_append, List.append_assoc, List.nil_append]
    rw [code_comment _ (.inr rfl), comment, throughClose_append hcs]
    rfl
  | openBlock hcs =>
    rw [eq_nil_of_unclosed (unclosed_openBlock hcs) hr, List.append_nil,
      code_comment _ (.inr rfl), comment, throughClose_of_not_infix hcs]
    rfl

/-! ## What the recognizer of ordinary code answers -/

/-- The answers that the recognizer of ordinary code may give, and where. -/
inductive Answers : List Char → Reading → Prop where
  | declined {cs : List Char} : (∀ c ∈ cs.head?, initial? c = none) → Answers cs .declined
  | accepted {cs w : List Char} {l : Lexeme} : Reads cs w l → Answers cs (.accepted l w)
  | refused (q : Quote) {cs : List Char} : q.body? cs = none →
      Answers (q.char :: cs) (.refused (.unterminatedString q.char))

theorem code_answers (cs : List Char) : Answers cs (code cs) := by
  cases cs with
  | nil => exact .declined (by simp)
  | cons c cs =>
    cases hc : initial? c with
    | none =>
      rw [code_cons, hc]
      exact .declined (by simpa using hc)
    | some i =>
      by_cases hi : i = .quote
      · rw [hi] at hc
        obtain ⟨q, rfl⟩ := initial?_eq_some_iff.mp hc
        rw [code_quote]
        split
        · next hb => exact .refused q hb
        · next b hb =>
          obtain ⟨hbody, r, rfl⟩ := Quote.body?_eq_some_iff.mp hb
          exact .accepted ⟨.string q hbody, r, by simp, by simp⟩
      · obtain ⟨kind, w, hw, hreads⟩ := ofInitial_reads cs hc hi
        rw [code_of_initial? hc, hw]
        exact .accepted hreads

/-- The recognizer of ordinary code accepts exactly the tokens of the grammar
at the beginning of a text that the next character does not go on with. -/
theorem code_eq_accepted_iff {cs w : List Char} {l : Lexeme} :
    code cs = .accepted l w ↔ Reads cs w l := by
  constructor
  · intro h
    have hanswer := code_answers cs
    rw [h] at hanswer
    cases hanswer with
    | accepted hreads => exact hreads
  · intro h
    obtain ⟨hspells, r, rfl, hr⟩ := h
    exact code_append hspells hr

/-- The recognizer of ordinary code declines where no token begins. -/
theorem code_eq_declined_iff {c : Char} {cs : List Char} :
    code (c :: cs) = .declined ↔ initial? c = none := by
  constructor
  · intro h
    have hanswer := code_answers (c :: cs)
    rw [h] at hanswer
    cases hanswer with
    | declined hc => exact hc c rfl
  · intro h
    rw [code_cons, h]

/-- The recognizer of ordinary code refuses the strings that nothing closes. -/
theorem code_eq_refused_iff {cs : List Char} {cause : Cause} :
    code cs = .refused cause ↔ ∃ (q : Quote) (ds : List Char), cs = q.char :: ds ∧
      q.body? ds = none ∧ cause = .unterminatedString q.char := by
  constructor
  · intro h
    have hanswer := code_answers cs
    rw [h] at hanswer
    cases hanswer with
    | refused q hb => exact ⟨q, _, rfl, hb, rfl⟩
  · intro h
    obtain ⟨q, ds, rfl, hb, rfl⟩ := h
    rw [code_quote, hb]

end Recognizer

/-! ## Tokens of the grammar -/

namespace Spells

variable {w : List Char} {l : Lexeme}

theorem ne_nil (h : Spells w l) : w ≠ [] := by
  cases h <;> simp_all

/-- The characters of a token determine its lexeme. -/
theorem unique {m : Lexeme} (h : Spells w l) (h' : Spells w m) : l = m := by
  have hl := Recognizer.code_append (r := []) h (by simp)
  rw [Recognizer.code_append (r := []) h' (by simp)] at hl
  cases hl
  rfl

/-- A token is completed to one that does not go on with a `}`, if it is not
one itself: a line comment by a newline, a block comment by its end. -/
theorem exists_closed (h : Spells w l) :
    ∃ fill m, Spells (w ++ fill) m ∧ ¬ m.Fuses '\x7d' := by
  by_cases hclosed : l.Fuses '\x7d'
  · obtain ⟨hkind, hunclosed⟩ := fuses_closeBrace_iff.mp hclosed
    cases h with
    | openLine hcs =>
      refine ⟨['\n'], _, .line hcs, ?_⟩
      rw [fuses_comment]
      exact not_unclosed_line _
    | openBlock hcs =>
      refine ⟨['*', '/'], _, .block (close_not_infix_append_star hcs), ?_⟩
      rw [fuses_comment]
      exact not_unclosed_block _
    | line => exact absurd hunclosed (not_unclosed_line _)
    | block => exact absurd hunclosed (not_unclosed_block _)
    | _ => cases hkind
  · exact ⟨[], l, by simpa using h, hclosed⟩

/-- Only one token is a `}`. -/
theorem eq_of_closeBrace (h : Spells ['\x7d'] l) : l = ⟨.punctuation, ['\x7d']⟩ :=
  h.unique (.punctuation (by decide))

end Spells

end ScriptLexer
