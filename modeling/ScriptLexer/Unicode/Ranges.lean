/-
ScriptLexer.Unicode.Ranges — sets of code points as ascending ranges.

A property of the Unicode standard is a list of closed ranges that ascend
and lie apart. Membership walks the list and stops at the first range that
begins above the code point, so an ASCII character is settled after a few
comparisons.
-/

namespace ScriptLexer.Unicode

/-- A closed range of code points. -/
structure CodeRange where
  first : Nat
  last : Nat
  deriving DecidableEq, Repr

/-- Whether a code point lies in one of the ranges, which ascend. -/
def inRanges (n : Nat) : List CodeRange → Bool
  | [] => false
  | r :: rs => if n < r.first then false else n ≤ r.last || inRanges n rs

/-- The ranges ascend and no two of them touch. -/
def ascending : List CodeRange → Bool
  | [] => true
  | [r] => r.first ≤ r.last
  | r :: s :: rs => r.first ≤ r.last && r.last + 1 < s.first && ascending (s :: rs)

/-- Nothing below the first range lies in any. -/
theorem not_mem_of_lt_first {n : Nat} : ∀ {r : CodeRange} {rs : List CodeRange},
    ascending (r :: rs) = true → n < r.first → ∀ s ∈ r :: rs, n < s.first
  | r, [], _, hn, s, hs => by
    cases List.mem_singleton.mp hs
    exact hn
  | r, t :: rs, h, hn, s, hs => by
    simp only [ascending, Bool.and_eq_true, decide_eq_true_eq] at h
    obtain ⟨⟨hr, ht⟩, hrest⟩ := h
    rcases List.mem_cons.mp hs with rfl | hs
    · exact hn
    · exact not_mem_of_lt_first hrest (by omega) s hs

/-- In ascending ranges the walk finds a code point exactly when some range
holds it. -/
theorem inRanges_iff {n : Nat} {rs : List CodeRange} (h : ascending rs = true) :
    inRanges n rs = true ↔ ∃ r ∈ rs, r.first ≤ n ∧ n ≤ r.last := by
  induction rs with
  | nil => simp [inRanges]
  | cons r rs ih =>
    have hrest : ascending rs = true := by
      cases rs with
      | nil => rfl
      | cons s rs =>
        simp only [ascending, Bool.and_eq_true] at h
        exact h.2
    unfold inRanges
    split
    · next hn =>
      constructor
      · intro hf
        cases hf
      · rintro ⟨s, hs, hle, -⟩
        have := not_mem_of_lt_first h hn s hs
        omega
    · next hn =>
      rw [Bool.or_eq_true, decide_eq_true_eq, ih hrest]
      constructor
      · rintro (hl | ⟨s, hs, hb⟩)
        · exact ⟨r, List.mem_cons_self, by omega, hl⟩
        · exact ⟨s, List.mem_cons_of_mem _ hs, hb⟩
      · rintro ⟨s, hs, hb⟩
        rcases List.mem_cons.mp hs with rfl | hs
        · exact .inl hb.2
        · exact .inr ⟨s, hs, hb⟩

end ScriptLexer.Unicode
