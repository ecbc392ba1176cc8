/-
ScriptLexer.Proofs.Escape — decoding a text in parts.

Decoding reads a backslash and the character after it together, so it can be done
in parts only where no such pair is torn apart. `Complete` holds of the texts that
are made of whole units, and decoding splits behind exactly these. Whether a text is
complete can be seen from its end: the backslashes it ends with pair up if their
number is even (`complete_iff_even`), and if it is odd the last one goes together
with what comes next.

`symbols` is what the decoder reads, one unit after another. Each stands for one
character, and only an escape is written with two. So a text that is decoded loses
one character for each escape, and none at all exactly if it has no escape
(`decode_splits`).
-/
import Mathlib
import ScriptLexer.Text.Escape

namespace ScriptLexer.Text

/-! ## What the decoder reads -/

/-- What the decoder reads in one turn. -/
inductive Symbol where
  /-- A character that stands for itself. -/
  | plain (c : Char)
  /-- A character behind a backslash. -/
  | escape (c : Char)
  /-- A backslash with nothing after it. -/
  | dangling
  deriving DecidableEq, Repr

namespace Symbol

/-- The character that a symbol stands for. -/
def value : Symbol → Char
  | plain c => c
  | escape c => unescape c
  | dangling => '\\'

/-- A symbol as it is written. -/
def written : Symbol → List Char
  | plain c => [c]
  | escape c => ['\\', c]
  | dangling => ['\\']

/-- Whether a symbol is written with a backslash and stands for what comes after it. -/
def isEscape : Symbol → Bool
  | escape _ => true
  | _ => false

theorem length_written (s : Symbol) : s.written.length = 1 + if s.isEscape then 1 else 0 := by
  cases s <;> rfl

theorem written_of_not_isEscape {s : Symbol} (h : ¬ s.isEscape = true) :
    s.written = [s.value] := by
  cases s with
  | escape c => exact absurd rfl h
  | plain | dangling => rfl

end Symbol

/-- The symbols of a text, from left to right. -/
def symbols : List Char → List Symbol
  | [] => []
  | ['\\'] => [.dangling]
  | '\\' :: c :: cs => .escape c :: symbols cs
  | c :: cs => .plain c :: symbols cs

@[simp] theorem symbols_nil : symbols [] = [] := rfl

@[simp] theorem symbols_backslash : symbols ['\\'] = [.dangling] := rfl

@[simp] theorem symbols_escape (c : Char) (cs : List Char) :
    symbols ('\\' :: c :: cs) = .escape c :: symbols cs := rfl

theorem symbols_cons {c : Char} (h : c ≠ '\\') (cs : List Char) :
    symbols (c :: cs) = .plain c :: symbols cs :=
  symbols.eq_4 _ _ (fun e => absurd e h) (fun _ _ e => absurd e h)

/-- A text is made of units: nothing, a lone backslash, an escape in front of a text, or
another character in front of one. -/
theorem units_induct {motive : List Char → Prop} (nil : motive []) (dangling : motive ['\\'])
    (escape : ∀ c cs, motive cs → motive ('\\' :: c :: cs))
    (plain : ∀ c cs, c ≠ '\\' → motive cs → motive (c :: cs)) (cs : List Char) : motive cs := by
  induction cs using symbols.induct with
  | case1 => exact nil
  | case2 => exact dangling
  | case3 c cs ih => exact escape c cs ih
  | case4 c cs hlone hpair ih =>
    exact plain c cs (fun hc => hlone hc (eq_nil_of_no_escape hpair hc)) ih

/-- Nothing is lost when a text is read. -/
theorem flatMap_written_symbols (cs : List Char) : (symbols cs).flatMap Symbol.written = cs := by
  induction cs using units_induct with
  | nil => rfl
  | dangling => rfl
  | escape c cs ih => rw [symbols_escape, List.flatMap_cons, ih]; rfl
  | plain c cs hc ih => rw [symbols_cons hc, List.flatMap_cons, ih]; rfl

/-- Decoding takes one symbol for another character each. -/
theorem decode_eq_map (cs : List Char) : decode cs = (symbols cs).map Symbol.value := by
  induction cs using units_induct with
  | nil => rfl
  | dangling => rfl
  | escape c cs ih => rw [decode_escape, symbols_escape, List.map_cons, ih]; rfl
  | plain c cs hc ih => rw [decode_cons hc, symbols_cons hc, List.map_cons, ih]; rfl

@[simp] theorem decode_eq_nil_iff {cs : List Char} : decode cs = [] ↔ cs = [] := by
  constructor
  · intro h
    unfold decode at h
    split at h <;> simp_all
  · rintro rfl
    rfl

/-! ## Complete texts -/

/-- Text made of whole units: a backslash with the character after it, or a character
that is no backslash. -/
inductive Complete : List Char → Prop where
  | nil : Complete []
  | escape (c : Char) {cs : List Char} : Complete cs → Complete ('\\' :: c :: cs)
  | plain {c : Char} {cs : List Char} : c ≠ '\\' → Complete cs → Complete (c :: cs)

@[simp] theorem complete_escape_iff {c : Char} {cs : List Char} :
    Complete ('\\' :: c :: cs) ↔ Complete cs := by
  refine ⟨?_, .escape c⟩
  intro h
  cases h with
  | escape _ h => exact h
  | plain hc _ => exact absurd rfl hc

theorem complete_cons_iff {c : Char} (hc : c ≠ '\\') {cs : List Char} :
    Complete (c :: cs) ↔ Complete cs := by
  refine ⟨?_, .plain hc⟩
  intro h
  cases h with
  | escape _ _ => exact absurd rfl hc
  | plain _ h => exact h

@[simp] theorem not_complete_backslash : ¬ Complete ['\\'] := by
  intro h
  cases h with
  | plain hc _ => exact hc rfl

/-- A text is complete if the decoder never comes to a backslash with nothing after it. -/
theorem complete_iff_symbols {cs : List Char} : Complete cs ↔ .dangling ∉ symbols cs := by
  induction cs using units_induct with
  | nil => simp [Complete.nil]
  | dangling => simp
  | escape c cs ih => simp [ih]
  | plain c cs hc ih => simp [complete_cons_iff hc, symbols_cons hc, ih]

instance (cs : List Char) : Decidable (Complete cs) :=
  decidable_of_iff _ complete_iff_symbols.symm

theorem Complete.append {a b : List Char} (ha : Complete a) (hb : Complete b) :
    Complete (a ++ b) := by
  induction ha with
  | nil => exact hb
  | escape c _ ih => exact .escape c ih
  | plain hc _ ih => exact .plain hc ih

/-- A text that is not complete ends with the first half of an escape. -/
theorem complete_or_dangling (cs : List Char) :
    Complete cs ∨ ∃ b, Complete b ∧ cs = b ++ ['\\'] := by
  induction cs using units_induct with
  | nil => exact .inl .nil
  | dangling => exact .inr ⟨[], .nil, rfl⟩
  | escape c cs ih =>
    rcases ih with h | ⟨b, hb, rfl⟩
    · exact .inl (.escape c h)
    · exact .inr ⟨_, .escape c hb, rfl⟩
  | plain c cs hc ih =>
    rcases ih with h | ⟨b, hb, rfl⟩
    · exact .inl (.plain hc h)
    · exact .inr ⟨_, .plain hc hb, rfl⟩

theorem Complete.not_concat {cs : List Char} (h : Complete cs) : ¬ Complete (cs ++ ['\\']) := by
  induction h with
  | nil => exact not_complete_backslash
  | escape c _ ih => exact fun h => ih (complete_escape_iff.mp h)
  | plain hc _ ih => exact fun h => ih ((complete_cons_iff hc).mp h)

/-! ### Seen from the end -/

/-- One more character makes a text complete, unless it is a backslash that begins an
escape. -/
theorem complete_concat_iff {cs : List Char} {c : Char} :
    Complete (cs ++ [c]) ↔ (c = '\\' → ¬ Complete cs) := by
  rcases complete_or_dangling cs with h | ⟨b, hb, rfl⟩
  · by_cases hc : c = '\\'
    · subst hc
      simp [h, h.not_concat]
    · simp [hc, h.append (.plain hc .nil)]
  · have hpair : Complete (b ++ ['\\', c]) := hb.append (.escape c .nil)
    simp [hpair, hb.not_concat]

/-- How many backslashes a text ends with. -/
def backslashesAtEnd (cs : List Char) : Nat :=
  (cs.rtakeWhile (· == '\\')).length

@[simp] theorem backslashesAtEnd_nil : backslashesAtEnd [] = 0 := rfl

theorem backslashesAtEnd_concat (cs : List Char) (c : Char) :
    backslashesAtEnd (cs ++ [c]) = if c = '\\' then backslashesAtEnd cs + 1 else 0 := by
  rw [backslashesAtEnd, List.rtakeWhile_concat]
  by_cases hc : c = '\\' <;> simp [hc, backslashesAtEnd]

/-- A text is complete if the backslashes at its end pair up. -/
theorem complete_iff_even {cs : List Char} : Complete cs ↔ Even (backslashesAtEnd cs) := by
  induction cs using List.reverseRecOn with
  | nil => simp [Complete.nil]
  | append_singleton cs c ih =>
    rw [complete_concat_iff, backslashesAtEnd_concat]
    by_cases hc : c = '\\'
    · simp [hc, ih, Nat.even_add_one]
    · simp [hc]

/-! ## Decoding in parts -/

/-- Behind a complete text decoding begins anew. -/
theorem Complete.decode_append {a : List Char} (h : Complete a) (b : List Char) :
    decode (a ++ b) = decode a ++ decode b := by
  induction h with
  | nil => rfl
  | escape c _ ih => simp [ih]
  | plain hc _ ih => simp [decode_cons hc, ih]

/-- A backslash behind a complete text goes together with what comes next. -/
theorem Complete.decode_escape {a : List Char} (h : Complete a) (c : Char) (b : List Char) :
    decode (a ++ ['\\'] ++ c :: b) = decode a ++ unescape c :: decode b := by
  rw [List.append_assoc, h.decode_append]
  rfl

/-- Only behind a complete text does decoding begin anew, whatever comes next. -/
theorem complete_of_decode_append {a : List Char}
    (h : ∀ b, decode (a ++ b) = decode a ++ decode b) : Complete a := by
  rcases complete_or_dangling a with ha | ⟨a, ha, rfl⟩
  · exact ha
  · -- an escape would be one character, and its halves are two
    have hlength := congrArg List.length (h ['n'])
    rw [ha.decode_escape, ha.decode_append] at hlength
    simp [decode] at hlength

/-! ## How much is lost -/

/-- How many escapes a text has, read from left to right. -/
def escapeCount (cs : List Char) : Nat :=
  (symbols cs).countP Symbol.isEscape

/-- Each escape costs a text one character. -/
theorem length_decode (cs : List Char) : (decode cs).length + escapeCount cs = cs.length := by
  rw [decode_eq_map, escapeCount]
  conv_rhs => rw [← flatMap_written_symbols cs]
  induction symbols cs with
  | nil => rfl
  | cons s ss ih =>
    simp only [List.map_cons, List.length_cons, List.countP_cons, List.flatMap_cons,
      List.length_append, s.length_written] at ih ⊢
    omega

/-- A text has no escape if it has no backslash but one at its end. -/
theorem escapeCount_eq_zero_iff {cs : List Char} : escapeCount cs = 0 ↔ '\\' ∉ cs.dropLast := by
  unfold escapeCount
  induction cs using units_induct with
  | nil => simp
  | dangling => decide
  | escape c cs _ => simp [Symbol.isEscape]
  | plain c cs hc ih =>
    rw [symbols_cons hc, List.countP_cons_of_neg (by simp [Symbol.isEscape]), ih]
    cases cs with
    | nil => simp
    | cons d ds => simp [List.dropLast_cons_of_ne_nil, Ne.symm hc]

/-- A text without escapes is decoded to itself. -/
theorem decode_of_escapeCount_eq_zero {cs : List Char} (h : escapeCount cs = 0) :
    decode cs = cs := by
  have hplain : ∀ s ∈ symbols cs, s.written = [s.value] := fun s hs =>
    Symbol.written_of_not_isEscape (List.countP_eq_zero.mp h s hs)
  calc decode cs = (symbols cs).map Symbol.value := decode_eq_map cs
    _ = (symbols cs).flatMap fun s => [s.value] := List.map_eq_flatMap
    _ = (symbols cs).flatMap Symbol.written := (List.flatMap_congr hplain).symm
    _ = cs := flatMap_written_symbols cs

theorem decode_eq_self_iff {cs : List Char} : decode cs = cs ↔ escapeCount cs = 0 := by
  refine ⟨?_, decode_of_escapeCount_eq_zero⟩
  intro h
  have hlength := length_decode cs
  rw [h] at hlength
  omega

/-! ## The law -/

/-- **Decoding splits at complete texts**: a text that ends with an even number of
backslashes can be decoded apart from whatever follows it, and no other can. If the
number is odd, the last of them goes together with the character that follows. A text
loses a character for each of its escapes, and is decoded to itself if it has no
backslash but one at its end. -/
theorem decode_splits (a : List Char) :
    (Even (backslashesAtEnd a) ↔ ∀ b, decode (a ++ b) = decode a ++ decode b) ∧
    (Odd (backslashesAtEnd a) → ∃ a', a = a' ++ ['\\'] ∧
      ∀ c b, decode (a ++ c :: b) = decode a' ++ unescape c :: decode b) ∧
    (decode a).length + escapeCount a = a.length ∧
    (decode a = a ↔ '\\' ∉ a.dropLast) := by
  refine ⟨?_, ?_, length_decode a, decode_eq_self_iff.trans escapeCount_eq_zero_iff⟩
  · rw [← complete_iff_even]
    exact ⟨Complete.decode_append, complete_of_decode_append⟩
  · intro hodd
    rcases complete_or_dangling a with ha | ⟨a', ha', rfl⟩
    · exact absurd (complete_iff_even.mp ha) (Nat.not_even_iff_odd.mpr hodd)
    · exact ⟨a', rfl, ha'.decode_escape⟩

/-- Three backslashes before an `n`: the first two are an escape, and the third makes
one with the letter. -/
theorem decode_splits_three :
    Odd (backslashesAtEnd ['a', '\\', '\\', '\\']) ∧
    (∃ a', ['a', '\\', '\\', '\\'] = a' ++ ['\\'] ∧
      ∀ c b, decode (['a', '\\', '\\', '\\'] ++ c :: b) = decode a' ++ unescape c :: decode b) ∧
    decode ['a', '\\', '\\', '\\', 'n'] = ['a', '\\', '\n'] := by
  have hodd : Odd (backslashesAtEnd ['a', '\\', '\\', '\\']) := by decide
  exact ⟨hodd, (decode_splits _).2.1 hodd, by decide⟩

end ScriptLexer.Text
