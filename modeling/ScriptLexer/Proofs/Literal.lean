/-
ScriptLexer.Proofs.Literal — the text between quotation marks.

Both scanners read from left to right in units, a backslash going together
with the character after it. `Quote.Body q` holds of the texts made of such
units without an unescaped `q`, and `Segment.Units q` of those in which no
brace opens an expression either. Each scanner walks over a text of its kind
without stopping (`body?_append`, `scan_append`), and every text is one of
its kind followed by what the scanner stops at (`Quote.cut`,
`Segment.cut`). The two facts together say what either scanner answers,
as the equivalences `body?_eq_some_iff`, `body?_eq_none_iff`,
`scan_eq_some_iff` and `scan_eq_none_iff`.

A unit of literal text may be a lone `}`, so that `}}` is one unit or two.
This does not matter here: both readings cover the same characters
(`scan_brace`), and only what the text stands for depends on the pairs.
-/
import ScriptLexer.Recognizer
import ScriptLexer.Segment

namespace ScriptLexer

namespace Quote

/-! ## Bodies of plain strings -/

/-- A mark is neither the backslash nor a brace. -/
theorem char_ne (q : Quote) : q.char ≠ '\\' ∧ q.char ≠ '\x7b' ∧ q.char ≠ '\x7d' := by
  cases q <;> decide

/-- A mark stands for itself behind a backslash. -/
theorem unescape_char (q : Quote) : Text.unescape q.char = q.char := by
  cases q <;> rfl

/-- Text in which every `q` stands after a backslash that escapes it. -/
inductive Body (q : Quote) : List Char → Prop where
  | nil : Body q []
  | escape (c : Char) {cs : List Char} : Body q cs → Body q ('\\' :: c :: cs)
  | plain {c : Char} {cs : List Char} :
      c ≠ q.char → c ≠ '\\' → Body q cs → Body q (c :: cs)

variable {q : Quote}

theorem Body.append {a b : List Char} (ha : q.Body a) (hb : q.Body b) : q.Body (a ++ b) := by
  induction ha with
  | nil => exact hb
  | escape c _ ih => exact .escape c ih
  | plain hq hs _ ih => exact .plain hq hs ih

/-- The scanner passes over a body. -/
theorem body?_append {b : List Char} (hb : q.Body b) (r : List Char) :
    q.body? (b ++ r) = (q.body? r).map (b ++ ·) := by
  induction hb with
  | nil => simp
  | escape c _ ih => simp [ih, Function.comp_def]
  | plain hq hs _ ih =>
    rw [List.cons_append, body?_plain _ _ hq hs, ih]
    simp [Function.comp_def]

/-- How far into a text its body reaches: to the end, to a lone backslash at
the end, or to the mark. -/
inductive Cut (q : Quote) : List Char → Prop where
  | whole {b : List Char} : q.Body b → Cut q b
  | dangling {b : List Char} : q.Body b → Cut q (b ++ ['\\'])
  | mark {b : List Char} (r : List Char) : q.Body b → Cut q (b ++ q.char :: r)

theorem Cut.extend {u cs : List Char} (hu : ∀ {b}, q.Body b → q.Body (u ++ b))
    (h : q.Cut cs) : q.Cut (u ++ cs) := by
  cases h with
  | whole hb => exact .whole (hu hb)
  | dangling hb =>
    rw [← List.append_assoc]
    exact .dangling (hu hb)
  | mark r hb =>
    rw [← List.append_assoc]
    exact .mark r (hu hb)

theorem cut (q : Quote) (cs : List Char) : q.Cut cs := by
  induction cs using Quote.body?.induct q with
  | case1 => exact .whole .nil
  | case2 c cs ih => exact ih.extend (u := ['\\', c]) (.escape c)
  | case3 cs => exact .mark cs .nil
  | case4 c cs hpair hq ih =>
    by_cases hs : c = '\\'
    · obtain rfl := Text.eq_nil_of_no_escape hpair hs
      subst hs
      exact .dangling .nil
    · exact ih.extend (u := [c]) (.plain hq hs)

theorem body?_backslash (q : Quote) : q.body? ['\\'] = none := by
  cases q <;> rfl

theorem body?_of_body {b : List Char} (hb : q.Body b) : q.body? b = none := by
  simpa using body?_append hb []

theorem body?_append_mark {b : List Char} (hb : q.Body b) (r : List Char) :
    q.body? (b ++ q.char :: r) = some b := by
  simp [body?_append hb]

/-- The scanner finds the body that ends at the first unescaped mark. -/
theorem body?_eq_some_iff {cs b : List Char} :
    q.body? cs = some b ↔ q.Body b ∧ ∃ r, cs = b ++ q.char :: r := by
  constructor
  · intro h
    cases q.cut cs with
    | whole hb =>
      rw [body?_of_body hb] at h
      cases h
    | dangling hb =>
      rw [body?_append hb, body?_backslash] at h
      cases h
    | mark r hb =>
      rw [body?_append_mark hb] at h
      cases h
      exact ⟨hb, r, rfl⟩
  · intro h
    obtain ⟨hb, r, rfl⟩ := h
    exact body?_append_mark hb r

/-- The scanner fails on the texts without an unescaped mark. -/
theorem body?_eq_none_iff {cs : List Char} :
    q.body? cs = none ↔ q.Body cs ∨ ∃ b, q.Body b ∧ cs = b ++ ['\\'] := by
  constructor
  · intro h
    cases q.cut cs with
    | whole hb => exact .inl hb
    | dangling hb => exact .inr ⟨_, hb, rfl⟩
    | mark r hb =>
      rw [body?_append_mark hb] at h
      cases h
  · intro h
    rcases h with hb | ⟨b, hb, rfl⟩
    · exact body?_of_body hb
    · rw [body?_append hb, body?_backslash]
      rfl

/-- A text that the scanner fails on is completed to a body by nothing, or by
one more backslash. -/
theorem exists_body_append {cs : List Char} (h : q.body? cs = none) :
    ∃ fill, q.Body (cs ++ fill) := by
  rcases body?_eq_none_iff.mp h with hb | ⟨b, hb, rfl⟩
  · exact ⟨[], by simpa using hb⟩
  · refine ⟨['\\'], ?_⟩
    rw [List.append_assoc]
    exact hb.append (.escape '\\' .nil)

end Quote

namespace Segment

/-! ## Literal text of interpolated strings -/

/-- Text in which every `q` is escaped and every `{` is escaped or doubled. -/
inductive Units (q : Quote) : List Char → Prop where
  | nil : Units q []
  | escape (c : Char) {cs : List Char} : Units q cs → Units q ('\\' :: c :: cs)
  | openPair {cs : List Char} : Units q cs → Units q ('\x7b' :: '\x7b' :: cs)
  | plain {c : Char} {cs : List Char} :
      c ≠ q.char → c ≠ '\\' → c ≠ '\x7b' → Units q cs → Units q (c :: cs)

variable {q : Quote}

theorem Units.append {a b : List Char} (ha : Units q a) (hb : Units q b) :
    Units q (a ++ b) := by
  induction ha with
  | nil => exact hb
  | escape c _ ih => exact .escape c ih
  | openPair _ ih => exact .openPair ih
  | plain hq hs ho _ ih => exact .plain hq hs ho ih

/-- The first character of literal text is not the mark. -/
theorem Units.head_ne {raw r cs : List Char} {c : Char} (h : Units q raw) (hne : raw ≠ [])
    (hcs : c :: cs = raw ++ r) : c ≠ q.char := by
  obtain ⟨hs, ho, -⟩ := q.char_ne
  cases h with
  | nil => exact absurd rfl hne
  | escape d _ =>
    rw [(List.cons.inj hcs).1]
    exact hs.symm
  | openPair _ =>
    rw [(List.cons.inj hcs).1]
    exact ho.symm
  | plain hq _ _ _ =>
    rw [(List.cons.inj hcs).1]
    exact hq

/-- Literal text does not begin with the mark, whatever follows it. -/
theorem Units.head?_append_ne {raw : List Char} (h : Units q raw) (hne : raw ≠ [])
    (r : List Char) : (raw ++ r).head? ≠ some q.char := by
  obtain ⟨c, cs, rfl⟩ := List.exists_cons_of_ne_nil hne
  have hcs : c :: cs = c :: cs ++ [] := by simp
  intro hhead
  exact h.head_ne hne hcs (Option.some.inj hhead)

@[simp] theorem before_nil : before [] = id := rfl

@[simp] theorem before_before (a b : List Char) (s : Segment) :
    before a (before b s) = before (a ++ b) s := by
  simp [before]

@[simp] theorem before_mk (a raw : List Char) (o : Bool) :
    before a ⟨raw, o⟩ = ⟨a ++ raw, o⟩ := rfl

/-- A `}` covers itself, whether it is half of a doubled one or not. -/
theorem scan_brace (q : Quote) (cs : List Char) :
    scan q ('\x7d' :: cs) = (scan q cs).map (before ['\x7d']) := by
  by_cases h : cs.head? = some '\x7d'
  · obtain ⟨ds, rfl⟩ := List.head?_eq_some_iff.mp h
    rw [scan_closePair, scan_brace q ds]
    simp [Function.comp_def]
  · exact scan_close q h
termination_by cs.length

theorem scan_backslash (q : Quote) : scan q ['\\'] = none := by
  cases q <;> rfl

/-- The scanner passes over literal text. -/
theorem scan_append {raw : List Char} (h : Units q raw) (r : List Char) :
    scan q (raw ++ r) = (scan q r).map (before raw) := by
  induction h with
  | nil => simp
  | escape c _ ih => simp [ih, Function.comp_def]
  | openPair _ ih => simp [ih, Function.comp_def]
  | @plain c cs hq hs ho _ ih =>
    have hstep : scan q (c :: (cs ++ r)) = (scan q (cs ++ r)).map (before [c]) := by
      by_cases hc : c = '\x7d'
      · rw [hc, scan_brace]
      · exact scan_plain q _ hq hs ho hc
    rw [List.cons_append, hstep, ih]
    simp [Function.comp_def]

/-- How far into a text its literal text reaches: to the end, to a lone
backslash at the end, to the mark, or to a `{` that is not doubled. -/
inductive Cut (q : Quote) : List Char → Prop where
  | whole {raw : List Char} : Units q raw → Cut q raw
  | dangling {raw : List Char} : Units q raw → Cut q (raw ++ ['\\'])
  | mark {raw : List Char} (r : List Char) : Units q raw → Cut q (raw ++ q.char :: r)
  | brace {raw r : List Char} :
      Units q raw → r.head? ≠ some '\x7b' → Cut q (raw ++ '\x7b' :: r)

theorem Cut.extend {u cs : List Char} (hu : ∀ {raw}, Units q raw → Units q (u ++ raw))
    (h : Cut q cs) : Cut q (u ++ cs) := by
  cases h with
  | whole h => exact .whole (hu h)
  | dangling h =>
    rw [← List.append_assoc]
    exact .dangling (hu h)
  | mark r h =>
    rw [← List.append_assoc]
    exact .mark r (hu h)
  | brace h hr =>
    rw [← List.append_assoc]
    exact .brace (hu h) hr

theorem cut (q : Quote) (cs : List Char) : Cut q cs := by
  induction cs using scan.induct q with
  | case1 => exact .whole .nil
  | case2 c cs ih => exact ih.extend (u := ['\\', c]) (.escape c)
  | case3 cs ih => exact ih.extend (u := ['\x7b', '\x7b']) .openPair
  | case4 cs ih =>
    obtain ⟨-, -, hc⟩ := q.char_ne
    have hbrace : ∀ {raw}, Units q raw → Units q ('\x7d' :: raw) :=
      .plain hc.symm (by decide) (by decide)
    exact ih.extend (u := ['\x7d', '\x7d']) fun h => hbrace (hbrace h)
  | case5 cs => exact .mark cs .nil
  | case6 cs _ hpair =>
    refine .brace .nil ?_
    intro hcs
    obtain ⟨ds, rfl⟩ := List.head?_eq_some_iff.mp hcs
    exact hpair ds rfl rfl
  | case7 c cs hpair _ _ hq ho ih =>
    by_cases hs : c = '\\'
    · obtain rfl := Text.eq_nil_of_no_escape hpair hs
      subst hs
      exact .dangling .nil
    · exact ih.extend (u := [c]) (.plain hq hs ho)

theorem scan_of_units {raw : List Char} (h : Units q raw) : scan q raw = none := by
  simpa using scan_append h []

theorem scan_append_mark {raw : List Char} (h : Units q raw) (r : List Char) :
    scan q (raw ++ q.char :: r) = some ⟨raw, false⟩ := by
  simp [scan_append h]

theorem scan_append_open {raw r : List Char} (h : Units q raw) (hr : r.head? ≠ some '\x7b') :
    scan q (raw ++ '\x7b' :: r) = some ⟨raw, true⟩ := by
  simp [scan_append h, scan_open q hr]

/-- The scanner finds the literal text before the first unescaped mark or the
first `{` that opens an expression. -/
theorem scan_eq_some_iff {cs : List Char} {s : Segment} :
    scan q cs = some s ↔ Units q s.raw ∧ ∃ r,
      if s.opensExpression then cs = s.raw ++ '\x7b' :: r ∧ r.head? ≠ some '\x7b'
      else cs = s.raw ++ q.char :: r := by
  constructor
  · intro h
    cases cut q cs with
    | whole hu =>
      rw [scan_of_units hu] at h
      cases h
    | dangling hu =>
      rw [scan_append hu, scan_backslash] at h
      cases h
    | mark r hu =>
      rw [scan_append_mark hu] at h
      cases h
      exact ⟨hu, r, by simp⟩
    | @brace raw r hu hr =>
      rw [scan_append_open hu hr] at h
      cases h
      exact ⟨hu, r, by simpa using hr⟩
  · obtain ⟨raw, o⟩ := s
    intro h
    obtain ⟨hu, r, h⟩ := h
    cases o with
    | false =>
      simp only [Bool.false_eq_true, if_false] at h
      rw [h, scan_append_mark hu]
    | true =>
      simp only [if_true] at h
      rw [h.1, scan_append_open hu h.2]

/-- The scanner fails on the texts that nothing ends. -/
theorem scan_eq_none_iff {cs : List Char} :
    scan q cs = none ↔ Units q cs ∨ ∃ raw, Units q raw ∧ cs = raw ++ ['\\'] := by
  constructor
  · intro h
    cases cut q cs with
    | whole hu => exact .inl hu
    | dangling hu => exact .inr ⟨_, hu, rfl⟩
    | mark r hu =>
      rw [scan_append_mark hu] at h
      cases h
    | brace hu hr =>
      rw [scan_append_open hu hr] at h
      cases h
  · intro h
    rcases h with hu | ⟨raw, hu, rfl⟩
    · exact scan_of_units hu
    · rw [scan_append hu, scan_backslash]
      rfl

/-- A text that the scanner fails on is completed to literal text by nothing,
or by one more backslash. -/
theorem exists_units_append {cs : List Char} (h : scan q cs = none) :
    ∃ fill, Units q (cs ++ fill) := by
  rcases scan_eq_none_iff.mp h with hu | ⟨raw, hu, rfl⟩
  · exact ⟨[], by simpa using hu⟩
  · refine ⟨['\\'], ?_⟩
    rw [List.append_assoc]
    exact hu.append (.escape '\\' .nil)

/-! ## What literal text stands for

The lexer writes doubled braces once and then decodes the escapes. Reading the
text once from left to right gives the same. -/

/-- What literal text stands for, read unit by unit. -/
def meaning : List Char → List Char
  | [] => []
  | '\\' :: c :: cs => Text.unescape c :: meaning cs
  | '\x7b' :: '\x7b' :: cs => '\x7b' :: meaning cs
  | '\x7d' :: '\x7d' :: cs => '\x7d' :: meaning cs
  | c :: cs => c :: meaning cs

theorem decode_undouble (cs : List Char) : Text.decode (undouble cs) = meaning cs := by
  induction cs using undouble.induct with
  | case1 => rfl
  | case2 c cs ih => rw [undouble_escape, Text.decode_escape, ih, meaning]
  | case3 cs ih => rw [undouble_openPair, Text.decode_cons (by decide), ih, meaning]
  | case4 cs ih => rw [undouble_closePair, Text.decode_cons (by decide), ih, meaning]
  | case5 c cs hescape hopen hclose ih =>
    rw [undouble.eq_5 _ _ hescape hopen hclose, meaning.eq_5 _ _ hescape hopen hclose]
    by_cases hc : c = '\\'
    · obtain rfl := Text.eq_nil_of_no_escape hescape hc
      subst hc
      rfl
    · rw [Text.decode_cons hc, ih]

end Segment

end ScriptLexer
