/-
ScriptLexer.Proofs.Span — spans put together again.

The span of a token ends where the next one begins, so the spans of tokens
in order leave nothing out between them (`reconstruct_eq_drop`). Nothing is
asked of the tokens but their order: whichever tokens are left out, their
text goes with the ones before them.
-/
import ScriptLexer.Span

namespace ScriptLexer

theorem rawSpans_singleton (text : String) (t : Token) :
    rawSpans text [t] = [String.ofList (text.toList.drop t.start)] := by
  simp only [rawSpans, spanEnds, List.drop_succ_cons, List.drop_zero, List.map_nil,
    List.nil_append, List.size_toArray, List.zipWith_cons_cons, List.zipWith_nil_left,
    Array.toList_extract, List.extract_eq_take_drop]
  rw [← List.length_drop, List.take_length]

theorem rawSpans_cons_cons (text : String) (t u : Token) (ts : List Token) :
    rawSpans text (t :: u :: ts) =
      String.ofList ((text.toList.drop t.start).take (u.start - t.start)) ::
        rawSpans text (u :: ts) := by
  simp [rawSpans, spanEnds, List.extract_eq_take_drop]

/-- The spans of tokens in order are the text from the first token on. -/
theorem reconstruct_eq_drop (text : String) {t : Token} {ts : List Token}
    (h : (t :: ts).Pairwise fun a b => a.start ≤ b.start) :
    reconstruct text (t :: ts) = String.ofList (text.toList.drop t.start) := by
  induction ts generalizing t with
  | nil => simp [reconstruct, rawSpans_singleton]
  | cons u ts ih =>
    have htu : t.start ≤ u.start := List.rel_of_pairwise_cons h List.mem_cons_self
    have hrest := ih h.tail
    rw [reconstruct] at hrest ⊢
    rw [rawSpans_cons_cons, String.join_cons, hrest, ← String.ofList_append]
    have hdrop : text.toList.drop u.start =
        (text.toList.drop t.start).drop (u.start - t.start) := by
      rw [List.drop_drop, Nat.add_sub_cancel' htu]
    rw [hdrop, List.take_append_drop]

end ScriptLexer
