/-
ScriptLexer.Proofs.Template — interpolated strings written from their parts.

A `Template` is an interpolated string taken apart: the mark that encloses
it, the literal texts, and the code between them. `Template.source` writes
it down, with the characters that mean something in literal text escaped or
doubled. The main statement, `lex_template`, is the way back: the tokens of
what is written are those of the parts, in order, whatever the literal texts
are and whichever code stands between the braces, as long as the code has
tokens of its own (`Embeds`).

The proof puts a path together from one path for each part. Literal text is
one step (`Template.units_encode`), which gives back the text that was
written (`Template.decode_encode`). Code takes between braces the steps that
it takes outside (`Path.embed`): the only new neighbour is the `}` at its
end, and no closed token goes on with a `}`.
-/
import Mathlib
import ScriptLexer.Proofs.Path

namespace ScriptLexer

/-! ## Writing -/

namespace Template

/-- A character of literal text as it is written between two marks. -/
def encodeChar (q : Quote) (c : Char) : List Char :=
  if c = '\\' ∨ c = q.char ∨ c = '\x7d' then ['\\', c]
  else if c = '\x7b' then ['\x7b', '\x7b']
  else [c]

/-- Literal text as it is written between two marks. -/
def encode (q : Quote) (text : List Char) : List Char :=
  text.flatMap (encodeChar q)

/-- Code between braces, and the literal text after it. -/
structure Part where
  code : String
  text : String
  deriving DecidableEq, Repr

/-- A part as it is written. -/
def Part.source (q : Quote) (p : Part) : List Char :=
  '\x7b' :: p.code.toList ++ '\x7d' :: encode q p.text.toList

end Template

/-- An interpolated string: its mark, the literal text it begins with, and
the parts after that. -/
structure Template where
  quote : Quote
  first : String
  parts : List Template.Part
  deriving DecidableEq, Repr

/-- A template as it is written. -/
def Template.source (t : Template) : String :=
  String.ofList ('$' :: t.quote.char :: (Template.encode t.quote t.first.toList ++
    (t.parts.flatMap (Template.Part.source t.quote) ++ [t.quote.char])))

/-! ## Reading -/

/-- What a token is, without where it is. -/
def Token.pair (t : Token) : TokenKind × String :=
  (t.kind, t.lexeme)

/-- The token of a literal text. A text that is empty has one only where it
is `kept`. -/
def Template.segment (text : String) (kept : Bool) : List (TokenKind × String) :=
  if text = "" ∧ kept = false then [] else [(.string, text)]

/-- The tokens of a template whose codes have the tokens `tss`. The empty
literal text is kept only in a string that has no other part. -/
def Template.pairs (t : Template) (tss : List (List Token)) : List (TokenKind × String) :=
  (.interpolationStart, "$") :: (segment t.first t.parts.isEmpty ++
    ((t.parts.zip tss).flatMap (fun p => p.2.map Token.pair ++ segment p.1.text false) ++
      [(.interpolationEnd, t.quote.char.toString)]))

/-- Code that may stand between braces: it has the tokens `ts` by itself, no
`$` and no `}` among them, it does not double the brace before it, and it
does not hide the brace after it in a comment. -/
structure Embeds (filename code : String) (ts : List Token) : Prop where
  lexes : lex code filename = .ok ts
  plain : ∀ t ∈ ts, t.kind ≠ .interpolationStart ∧ ¬ (t.kind = .punctuation ∧ t.lexeme = "\x7d")
  head : code.toList.head? ≠ some '\x7b'
  closed : ∀ t ∈ ts.getLast?, t.kind = .comment → ¬ Unclosed t.lexeme.toList

/-! ## Literal text -/

namespace Template

variable {q : Quote}

@[simp] theorem encode_nil : encode q [] = [] := rfl

@[simp] theorem encode_cons (c : Char) (cs : List Char) :
    encode q (c :: cs) = encodeChar q c ++ encode q cs := rfl

theorem encodeChar_ne_nil (c : Char) : encodeChar q c ≠ [] := by
  unfold encodeChar
  split
  · simp
  · split <;> simp

@[simp] theorem encode_eq_nil_iff {cs : List Char} : encode q cs = [] ↔ cs = [] := by
  cases cs with
  | nil => simp
  | cons c cs => simp [encodeChar_ne_nil]

/-- Written literal text ends nowhere. -/
theorem units_encode (q : Quote) (cs : List Char) : Segment.Units q (encode q cs) := by
  induction cs with
  | nil => exact .nil
  | cons c cs ih =>
    rw [encode_cons, encodeChar]
    split
    · exact .escape c ih
    · next hescape =>
      split
      · exact .openPair ih
      · next hopen =>
        rw [not_or, not_or] at hescape
        exact .plain hescape.2.1 hescape.1 hopen ih

/-- No written literal text begins with a `}`. -/
theorem head?_encode_append_ne {cs r : List Char} (hr : r.head? ≠ some '\x7d') :
    (encode q cs ++ r).head? ≠ some '\x7d' := by
  cases cs with
  | nil => exact hr
  | cons c cs =>
    rw [encode_cons, encodeChar]
    split
    · simp
    · next hescape =>
      split
      · simp
      · rw [not_or, not_or] at hescape
        simpa using hescape.2.2

/-- An escape of literal text stands for the escaped character. -/
theorem unescape_of_encoded {c : Char} (h : c = '\\' ∨ c = q.char ∨ c = '\x7d') :
    Text.unescape c = c := by
  rcases h with rfl | rfl | rfl
  · rfl
  · exact q.unescape_char
  · rfl

/-- Written literal text stands for the text that was written. -/
theorem decode_encode (q : Quote) (cs : List Char) :
    Text.decode (Segment.undouble (encode q cs)) = cs := by
  induction cs with
  | nil => rfl
  | cons c cs ih =>
    rw [encode_cons, encodeChar]
    split
    · next hescape =>
      simp [ih, unescape_of_encoded hescape]
    · next hescape =>
      rw [not_or, not_or] at hescape
      split
      · next hopen =>
        rw [hopen]
        simp [Text.decode_cons, ih]
      · next hopen =>
        rw [List.singleton_append, Segment.undouble_plain _ hescape.1 hopen hescape.2.2,
          Text.decode_cons hescape.1, ih]

end Template

/-! ## Code between braces -/

/-- What a lexeme is, with its text as a string. -/
def Lexeme.pair (l : Lexeme) : TokenKind × String :=
  (l.kind, String.ofList l.text)

theorem map_pair_tokens (filename : String) (ms : List Move) :
    (ms.filterMap (Move.token? filename)).map Token.pair = (lexemesOf ms).map Lexeme.pair := by
  rw [lexemesOf, List.map_filterMap, List.map_filterMap]
  congr 1
  funext m
  cases h : m.step.lexeme? <;> simp [Move.token?, h, Token.pair, Lexeme.pair]

/-- Code takes between braces the steps that it takes outside. -/
theorem Path.embed {mark : Mark} {ms : List Move} (h : Path .code mark ms .code none)
    (hplain : ∀ l ∈ lexemesOf ms, l.kind ≠ .interpolationStart ∧ l ≠ ⟨.punctuation, ['\x7d']⟩)
    (hclosed : ∀ l ∈ (lexemesOf ms).getLast?, ¬ l.Fuses '\x7d')
    (q : Quote) (opened : Location) (mark' : Mark) :
    Passes (.expression q opened) mark' (coveredText ms) (lexemesOf ms)
      (.expression q opened) (some '\x7d') := by
  induction ms generalizing mark mark' with
  | nil => exact .nil
  | cons m ms ih =>
    cases h with
    | cons htakes hrest =>
      cases htakes with
      | start => exact absurd rfl (hplain ⟨.interpolationStart, ['$']⟩ (by simp)).1
      | @token _ w l _ hspells happart =>
        simp only [coveredText_cons, lexemesOf_cons, Option.toList_some, List.singleton_append]
          at hplain hclosed ⊢
        refine Passes.append (.step (.inner hspells ?_ ?_)) (ih hrest ?_ ?_ (mark'.advance w))
        · -- the next character is the one outside, or the `}` after the last token
          cases ms with
          | nil =>
            intro c hc
            cases hc
            exact hclosed l rfl
          | cons m' ms' =>
            obtain ⟨d, ds, hd⟩ := List.exists_cons_of_ne_nil (hrest.coveredText_ne_nil (by simp))
            rw [hd] at happart ⊢
            exact happart
        · intro hw
          rw [hw] at hspells
          exact absurd hspells.eq_of_closeBrace (hplain l (by simp)).2
        · exact fun l' hl' => hplain l' (List.mem_cons_of_mem _ hl')
        · intro l' hl'
          refine hclosed l' ?_
          rw [List.getLast?_cons, hl']
          rfl

/-! ## The path of a template -/

namespace Template

variable {q : Quote} {filename : String}

theorem pair_interpolationEnd (q : Quote) :
    (⟨.interpolationEnd, [q.char]⟩ : Lexeme).pair = (.interpolationEnd, q.char.toString) := by
  cases q <;> rfl

/-- The lexeme of the literal text before an expression. -/
theorem map_pair_brace (q : Quote) (text : String) :
    ((if (encode q text.toList).isEmpty then none
      else some ⟨.string, Text.decode (Segment.undouble (encode q text.toList))⟩ :
        Option Lexeme).toList).map Lexeme.pair = segment text false := by
  rw [decode_encode]
  by_cases htext : text = ""
  · simp [segment, htext]
  · simp [segment, htext, Lexeme.pair]

/-- Code that may stand between braces is passed there with the lexemes of
its tokens. -/
theorem exists_passes_code {code : String} {ts : List Token} (h : Embeds filename code ts)
    (q : Quote) (opened : Location) :
    ∃ ls, (∀ here, Passes (.expression q opened) here code.toList ls (.expression q opened)
        (some '\x7d')) ∧ ls.map Lexeme.pair = ts.map Token.pair := by
  obtain ⟨ms, hpath, htext, rfl⟩ := lex_eq_ok_iff.mp h.lexes
  have hpairs := map_pair_tokens filename ms
  refine ⟨lexemesOf ms, ?_, hpairs.symm⟩
  rw [htext]
  refine hpath.embed ?_ ?_ q opened
  · intro l hl
    have hmem : l.pair ∈ (ms.filterMap (Move.token? filename)).map Token.pair :=
      hpairs ▸ List.mem_map_of_mem hl
    obtain ⟨t, ht, htl⟩ := List.mem_map.mp hmem
    obtain ⟨hkind, hbrace⟩ := h.plain t ht
    simp only [Token.pair, Lexeme.pair, Prod.mk.injEq] at htl
    refine ⟨htl.1 ▸ hkind, ?_⟩
    intro hl'
    rw [hl'] at htl
    exact hbrace htl
  · intro l hl
    have hlast : ((ms.filterMap (Move.token? filename)).map Token.pair).getLast? =
        some l.pair := by
      rw [hpairs, List.getLast?_map, hl]
      rfl
    obtain ⟨t, ht, htl⟩ := Option.map_eq_some_iff.mp (List.getLast?_map ▸ hlast)
    simp only [Token.pair, Lexeme.pair, Prod.mk.injEq] at htl
    rw [fuses_closeBrace_iff]
    intro hfuses
    obtain ⟨hkind, hunclosed⟩ := hfuses
    refine h.closed t ht (htl.1.trans hkind) ?_
    rw [htl.2, String.toList_ofList]
    exact hunclosed

section

variable {quote? : Option Quote} {mark : List Char}

/-- The last literal text and the closing mark. -/
theorem exists_passes_last (opened : Location) (hentry : Entry quote? mark q) (text : String) :
    ∃ ls, (∀ here, Passes (.literal quote? opened) here
        (mark ++ (encode q text.toList ++ [q.char])) ls .code none) ∧
      ls.map Lexeme.pair = segment text quote?.isNone ++
        [(.interpolationEnd, q.char.toString)] := by
  by_cases hne : mark ++ encode q text.toList = []
  · -- after an expression, no text: the closing mark comes next
    obtain ⟨rfl, hnil⟩ := List.append_eq_nil_iff.mp hne
    cases hentry
    refine ⟨_, fun here => by simpa [hnil] using .step .finish, ?_⟩
    have htext : text = "" := by simpa using hnil
    simp [segment, htext, pair_interpolationEnd]
  · have hpasses : ∀ here, Passes (.literal quote? opened) here
        ((mark ++ encode q text.toList) ++ [q.char]) _ .code none := fun _ =>
      .append (.step (.text hentry (units_encode q text.toList) hne)) (.step .finish)
    have hkept : segment text quote?.isNone = [(.string, text)] := by
      refine if_neg ?_
      intro hempty
      obtain ⟨rfl, hquote⟩ := hempty
      cases hentry with
      | first => cases hquote
      | later => exact hne rfl
    refine ⟨_, fun here => by simpa using hpasses here, ?_⟩
    rw [hkept]
    simp [decode_encode, Lexeme.pair]

/-- A literal text and the code between braces after it. The `{` is not
doubled by the code, nor the `}` by what comes next. -/
theorem exists_passes_part (opened : Location) (hentry : Entry quote? mark q) (text : String)
    {code : String} {ts : List Token} (hcode : Embeds filename code ts) {next? : Option Char}
    (hnext : next? ≠ some '\x7d') :
    ∃ ls, (∀ here, Passes (.literal quote? opened) here
        (mark ++ (encode q text.toList ++ '\x7b' :: (code.toList ++ ['\x7d']))) ls
        (.literal (some q) opened) next?) ∧
      ls.map Lexeme.pair = segment text false ++ ts.map Token.pair := by
  obtain ⟨ls, hpasses, hpairs⟩ := exists_passes_code hcode q opened
  have hopen : (code.toList ++ ['\x7d']).head? ≠ some '\x7b' := by
    cases hhead : code.toList with
    | nil => simp
    | cons c cs =>
      have := hcode.head
      rw [hhead] at this
      simpa using this
  have hsource : mark ++ (encode q text.toList ++ '\x7b' :: (code.toList ++ ['\x7d'])) =
      (mark ++ (encode q text.toList ++ ['\x7b'])) ++ (code.toList ++ ['\x7d']) := by
    simp
  rw [hsource]
  refine ⟨_, fun here => .append
    (.step (.brace hentry (units_encode q text.toList) (by simpa using hopen)))
    (.append (by simpa using hpasses _) (.step (.close hnext))), ?_⟩
  rw [List.map_append, List.map_append, hpairs, map_pair_brace]
  simp

/-- What stands after the `$` or after the `}` of a part: literal text, and
then the closing mark or a part. -/
theorem exists_passes (opened : Location) (hentry : Entry quote? mark q) (text : String)
    {parts : List Part} {tss : List (List Token)}
    (hparts : List.Forall₂ (fun p ts => Embeds filename p.code ts) parts tss) :
    ∃ ls, (∀ here, Passes (.literal quote? opened) here
        (mark ++ (encode q text.toList ++ (parts.flatMap (Part.source q) ++ [q.char])))
        ls .code none) ∧
      ls.map Lexeme.pair = segment text (quote?.isNone && parts.isEmpty) ++
        ((parts.zip tss).flatMap (fun p => p.2.map Token.pair ++ segment p.1.text false) ++
          [(.interpolationEnd, q.char.toString)]) := by
  induction hparts generalizing text quote? mark with
  | nil =>
    obtain ⟨ls, hpasses, hpairs⟩ := exists_passes_last opened hentry text
    exact ⟨ls, by simpa using hpasses, by simpa using hpairs⟩
  | @cons p ts parts tss hp _ ih =>
    have hnext : (encode q p.text.toList ++
        (parts.flatMap (Part.source q) ++ [q.char])).head? ≠ some '\x7d' := by
      refine head?_encode_append_ne ?_
      cases parts with
      | nil => simpa using q.char_ne.2.2
      | cons p' ps => simp [Part.source]
    obtain ⟨ls₁, hpart, hpairs₁⟩ := exists_passes_part opened hentry text hp hnext
    obtain ⟨ls₂, hrest, hpairs₂⟩ := ih (.later q) p.text
    rw [List.nil_append] at hrest
    have hsource : mark ++ (encode q text.toList ++
          ((p :: parts).flatMap (Part.source q) ++ [q.char])) =
        (mark ++ (encode q text.toList ++ '\x7b' :: (p.code.toList ++ ['\x7d']))) ++
          (encode q p.text.toList ++ (parts.flatMap (Part.source q) ++ [q.char])) := by
      simp [Part.source]
    rw [hsource]
    refine ⟨ls₁ ++ ls₂, fun here => .append ?_ (hrest _), ?_⟩
    · rw [Option.or_none]
      exact hpart here
    · rw [List.map_append, hpairs₁, hpairs₂]
      simp

end

end Template

/-! ## Templates read back -/

/-- **What is written is read back**: a template lexes to the `$`, the tokens
of its parts in order, and the closing mark. Each literal text is one token
with the text that was written, or none if it is empty and something else
stands in the string. -/
theorem lex_template {t : Template} {filename : String} {tss : List (List Token)}
    (h : List.Forall₂ (fun p ts => Embeds filename p.code ts) t.parts tss) :
    ∃ ts, lex t.source filename = .ok ts ∧ ts.map Token.pair = t.pairs tss := by
  obtain ⟨ls, hbody, hpairs⟩ :=
    Template.exists_passes Location.start (.first t.quote) t.first h
  have hpasses : Passes .code .start (['$'] ++ ([t.quote.char] ++
      (Template.encode t.quote t.first.toList ++
        (t.parts.flatMap (Template.Part.source t.quote) ++ [t.quote.char]))))
      _ .code none :=
    .append (.step .start) (hbody _)
  obtain ⟨ms, hpath, htext, hlexemes⟩ := hpasses
  refine ⟨_, lex_eq_ok_iff.mpr ⟨ms, hpath, ?_, rfl⟩, ?_⟩
  · rw [htext, Template.source]
    simp
  · rw [map_pair_tokens, hlexemes, List.map_append, hpairs]
    rfl

/-- Braces and the mark in literal text, a `}` in a comment and in a string,
and an empty text between two codes. -/
theorem lex_template_braces : ∃ ts,
    lex (Template.source ⟨.double, "\x7b\x7d\"", [⟨"x/*\x7d*/", ""⟩, ⟨"'\x7d'", "\\"⟩]⟩)
      "a.mcl" = .ok ts ∧
    ts.map Token.pair = [(.interpolationStart, "$"), (.string, "\x7b\x7d\""),
      (.identifier, "x"), (.comment, "/*\x7d*/"), (.string, "\x7d"), (.string, "\\"),
      (.interpolationEnd, "\"")] := by
  obtain ⟨hcommented, hstring⟩ :
      Embeds "a.mcl" "x/*\x7d*/" [⟨"x", .identifier, ⟨1, 1⟩, 0, "a.mcl"⟩,
        ⟨"/*\x7d*/", .comment, ⟨1, 2⟩, 1, "a.mcl"⟩] ∧
      Embeds "a.mcl" "'\x7d'" [⟨"\x7d", .string, ⟨1, 1⟩, 0, "a.mcl"⟩] :=
    ⟨⟨by cbv, by decide, by decide, by decide⟩, ⟨by cbv, by decide, by decide, by decide⟩⟩
  obtain ⟨ts, hlex, hpairs⟩ := lex_template
    (t := ⟨.double, "\x7b\x7d\"", [⟨"x/*\x7d*/", ""⟩, ⟨"'\x7d'", "\\"⟩]⟩)
    (.cons hcommented (.cons hstring .nil))
  refine ⟨ts, hlex, hpairs.trans ?_⟩
  decide

end ScriptLexer
