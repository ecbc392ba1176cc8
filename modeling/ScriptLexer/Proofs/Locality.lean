/-
ScriptLexer.Proofs.Locality — how far an edit reaches.

The lexer never looks further than one character past what it covers. So two
texts that begin alike are read by the same moves for as long as that
character lies in the common beginning (`Run.of_agree`), and a token that is
followed by another one there is the same token in both (`lex_edit_local`).
This holds whatever comes after, and also where the second text does not lex:
the tokens are then the first of those made before the fault.

The bound is sharp: the last token that starts in the common beginning may go on
behind it, as the `=` of `a=1` does in `a==`.
-/
import ScriptLexer.Proofs.Lossless

namespace ScriptLexer

/-! ## Texts that begin alike -/

/-- A text that agrees beyond `a` with one that begins with `a` begins with `a`
too, and goes on with the same character. -/
theorem exists_append_of_take_eq {a r text : List Char} {k : Nat}
    (h : (a ++ r).take k = text.take k) (hk : a.length < k) :
    ∃ r', text = a ++ r' ∧ r'.head? = r.head? := by
  have hbegin : text.take a.length = a := by
    have hshort := congrArg (List.take a.length) h
    rw [List.take_take, List.take_take, Nat.min_eq_left (Nat.le_of_lt hk), List.take_left] at hshort
    exact hshort.symm
  have hnext : text[a.length]? = (a ++ r)[a.length]? := by
    have hthere := congrArg (fun cs => cs[a.length]?) h
    simp only [List.getElem?_take, if_pos hk] at hthere
    exact hthere.symm
  refine ⟨text.drop a.length, ?_, ?_⟩
  · conv => lhs; rw [← List.take_append_drop a.length text, hbegin]
  · rw [List.head?_drop, hnext, List.getElem?_append_right (Nat.le_refl _), Nat.sub_self,
      List.head?_eq_getElem?]

/-! ## Runs that begin alike -/

section

variable {mode mode' : Mode} {mark : Mark} {ms : List Move} {filename : String}

/-- A path is cut in front of the move that makes a given token of it. -/
theorem Path.cut_before_token {next? : Option Char} {ts us : List Token} {u : Token}
    (h : Path mode mark ms mode' next?)
    (htokens : ms.filterMap (Move.token? filename) = ts ++ u :: us) :
    ∃ before after mid, ms = before ++ after ∧
      Path mode mark before mid ((coveredText after).head?.or next?) ∧
      before.filterMap (Move.token? filename) = ts ∧
      u.start = mark.offset + (coveredText before).length := by
  obtain ⟨first, rest, rfl, hfirst, hrest⟩ := List.filterMap_eq_append_iff.mp htokens
  obtain ⟨silent, m, after, rfl, hsilent, hm, -⟩ := List.filterMap_eq_cons_iff.mp hrest
  rw [← List.append_assoc] at h ⊢
  obtain ⟨mid, hbefore, -⟩ := h.split
  obtain ⟨-, hmark, -, -⟩ := h.of_append_cons
  refine ⟨first ++ silent, m :: after, mid, rfl, hbefore, ?_, ?_⟩
  · rw [List.filterMap_append, hfirst, List.filterMap_eq_nil_iff.mpr hsilent, List.append_nil]
  · rw [Move.start_of_token? hm, hmark, Mark.offset_advance]

/-- A run on a text makes the moves of every path that another text begins with,
if the two agree on what the path covers and the character after it. -/
theorem Run.of_agree {r text : List Char} {k : Nat} (h : Path mode mark ms mode' r.head?)
    (hagree : (coveredText ms ++ r).take k = text.take k) (hk : (coveredText ms).length < k) :
    ms <+: (of Recognizer.code mode mark text).moves := by
  obtain ⟨r', rfl, hnext⟩ := exists_append_of_take_eq hagree hk
  rw [of_path h hnext]
  exact List.prefix_append ms _

variable {text text' : String} {k : Nat}

/-- Of two texts that agree on their first `k` characters, the second has all
tokens of the first that come before one that starts there. -/
theorem Run.tokens_of_agree {ts us : List Token} {u : Token}
    (hagree : text.toList.take k = text'.toList.take k)
    (htokens : (ofText Recognizer.code text).tokens filename = ts ++ u :: us) (hu : u.start < k) :
    ts <+: (ofText Recognizer.code text').tokens filename := by
  obtain ⟨mode', r, htext, hpath, -⟩ := exists_path .code .start text.toList
  obtain ⟨before, after, mid, hms, hbefore, hts, hstart⟩ := hpath.cut_before_token htokens
  rw [hms, coveredText_append, List.append_assoc] at htext
  rw [← List.head?_append] at hbefore
  rw [htext] at hagree
  have hlength : (coveredText before).length < k := by
    simpa [hstart, Mark.start] using hu
  rw [← hts]
  exact (of_agree hbefore hagree hlength).filterMap _

end

/-! ## Settled tokens -/

/-- The tokens with one after them that starts before the offset `k`. -/
def settled (k : Nat) (ts : List Token) : List Token :=
  ((ts.zip (ts.drop 1)).filter fun p => p.2.start < k).map Prod.fst

theorem settled_cons_cons (k : Nat) (t u : Token) (ts : List Token) :
    settled k (t :: u :: ts) =
      if u.start < k then t :: settled k (u :: ts) else settled k (u :: ts) := by
  by_cases hu : u.start < k <;> simp [settled, hu]

/-- Of tokens in order the settled ones are those before the last one that
starts before `k`. -/
theorem settled_eq_nil_or_append {k : Nat} {ts : List Token}
    (h : ts.Pairwise fun a b => a.start < b.start) :
    settled k ts = [] ∨ ∃ u us, ts = settled k ts ++ u :: us ∧ u.start < k := by
  induction ts with
  | nil => exact .inl rfl
  | cons t ts ih =>
    cases ts with
    | nil => exact .inl rfl
    | cons u ts =>
      have hrest := ih h.tail
      rw [settled_cons_cons]
      by_cases hu : u.start < k
      · rw [if_pos hu]
        rcases hrest with hnil | ⟨v, vs, hts, hv⟩
        · exact .inr ⟨u, ts, by rw [hnil]; rfl, hu⟩
        · exact .inr ⟨v, vs, by rw [List.cons_append, ← hts], hv⟩
      · -- whatever starts after `u` does not start before `k` either
        rw [if_neg hu]
        rcases hrest with hnil | ⟨v, vs, hts, hv⟩
        · exact .inl hnil
        · have hmem : v ∈ u :: ts := by
            rw [hts]
            simp
          rcases List.mem_cons.mp hmem with rfl | hmem
          · exact absurd hv hu
          · have := List.rel_of_pairwise_cons h.tail hmem
            omega

/-! ## The law -/

/-- **Edits are local**: of two texts that agree on their first `k` characters,
the second has each token of the first that another one follows before the
offset `k`, in the same place and at the same index. If both lex, these tokens
are a common beginning of theirs. -/
theorem lex_edit_local {text text' filename : String} {k : Nat} {ts : List Token}
    (hagree : text.toList.take k = text'.toList.take k) (h : lex text filename = .ok ts) :
    (∀ i t u, ts[i]? = some t → ts[i + 1]? = some u → u.start < k →
      ((Run.ofText Recognizer.code text').tokens filename)[i]? = some t) ∧
    ∀ ts', lex text' filename = .ok ts' → settled k ts <+: ts ∧ settled k ts <+: ts' := by
  have htokens := (lex_eq_ok_iff_run.mp h).2
  refine ⟨?_, ?_⟩
  · intro i t u ht hu hlt
    have hcut : ts = ts.take (i + 1) ++ u :: ts.drop (i + 2) := by
      obtain ⟨hi, rfl⟩ := List.getElem?_eq_some_iff.mp hu
      rw [← List.drop_eq_getElem_cons hi, List.take_append_drop]
    obtain ⟨rest, hrest⟩ := Run.tokens_of_agree hagree (htokens.trans hcut) hlt
    rw [← hrest, List.getElem?_append_left, List.getElem?_take_of_lt (Nat.lt_succ_self i), ht]
    have := (List.getElem?_eq_some_iff.mp hu).1
    rw [List.length_take]
    omega
  · intro ts' h'
    rcases settled_eq_nil_or_append (k := k) (pairwise_start_of_lex h) with
      hnil | ⟨u, us, hts, hu⟩
    · rw [hnil]
      exact ⟨List.nil_prefix, List.nil_prefix⟩
    · refine ⟨⟨u :: us, hts.symm⟩, ?_⟩
      rw [← (lex_eq_ok_iff_run.mp h').2]
      exact Run.tokens_of_agree hagree (htokens.trans hts) hu

/-- The `a` is settled by the `=` after it, also where the rest does not lex. The
`=` is not, and becomes another token. -/
theorem lex_edit_local_operator :
    (∃ ts, lex "a=1" "a.mcl" = .ok ts ∧ settled 2 ts = [⟨"a", .identifier, ⟨1, 1⟩, 0, "a.mcl"⟩]) ∧
    lex "a==" "a.mcl" = .ok [⟨"a", .identifier, ⟨1, 1⟩, 0, "a.mcl"⟩,
      ⟨"==", .operator, ⟨1, 2⟩, 1, "a.mcl"⟩] ∧
    [⟨"a", .identifier, ⟨1, 1⟩, 0, "a.mcl"⟩] <+:
      ([⟨"a", .identifier, ⟨1, 1⟩, 0, "a.mcl"⟩, ⟨"==", .operator, ⟨1, 2⟩, 1, "a.mcl"⟩] :
        List Token) ∧
    lex "a=#" "a.mcl" = .error ⟨.unexpectedCharacter '#', "a.mcl", some ⟨1, 3⟩⟩ ∧
    ((Run.ofText Recognizer.code "a=#").tokens "a.mcl")[0]? =
      some ⟨"a", .identifier, ⟨1, 1⟩, 0, "a.mcl"⟩ := by
  obtain ⟨h, hlonger, hfault⟩ :
      lex "a=1" "a.mcl" = .ok [⟨"a", .identifier, ⟨1, 1⟩, 0, "a.mcl"⟩,
        ⟨"=", .operator, ⟨1, 2⟩, 1, "a.mcl"⟩, ⟨"1", .number, ⟨1, 3⟩, 2, "a.mcl"⟩] ∧
      lex "a==" "a.mcl" = .ok [⟨"a", .identifier, ⟨1, 1⟩, 0, "a.mcl"⟩,
        ⟨"==", .operator, ⟨1, 2⟩, 1, "a.mcl"⟩] ∧
      lex "a=#" "a.mcl" = .error ⟨.unexpectedCharacter '#', "a.mcl", some ⟨1, 3⟩⟩ :=
    ⟨by cbv, by cbv, by cbv⟩
  have hagree : ∀ text' : String, text'.toList.take 2 = ['a', '='] →
      "a=1".toList.take 2 = text'.toList.take 2 := by
    intro text' htext'
    rw [htext']
    decide
  refine ⟨⟨_, h, by decide⟩, hlonger, ?_, hfault, ?_⟩
  · exact ((lex_edit_local (hagree "a==" (by decide)) h).2 _ hlonger).2
  · exact (lex_edit_local (hagree "a=#" (by decide)) h).1 0 _ _ rfl rfl (by decide)

end ScriptLexer
