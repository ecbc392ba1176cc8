/-
ScriptLexer.Proofs.Slicing — the spans of any tokens.

Offsets count characters, while a text is kept in UTF-8, where a character takes one
to four bytes. To cut spans out of the encoded text one looks up where each character
begins and slices the bytes from place to place (`byteSpans`). That works for any list
of tokens, also with starts that repeat, go back or lie behind the end: every slice has
its ends between two characters, and the slices are the spans (`byteSpans_eq`).

A span is the text between two offsets, with what lies behind the end left off
(`getElem?_rawSpans`). So the spans of tokens in order are all of the text from the
first token on, whichever of the others are left out (`reconstruct_cons_eq`).
-/
import ScriptLexer.Proofs.Span

namespace ScriptLexer

/-! ## Slices of the encoded text -/

/-- Where the characters of a text begin in its encoding, and where the last one ends,
if the first begins at `start`. -/
def byteOffsets (start : Nat) : List Char → List Nat
  | [] => [start]
  | c :: cs => start :: byteOffsets (start + c.utf8Size) cs

/-- Where the character at an offset begins. Behind the last character is the end. -/
def byteAt (text : String) (offset : Nat) : Nat :=
  (byteOffsets 0 text.toList)[offset]?.getD text.utf8ByteSize

/-- The bytes from `start` up to `stop`, if these are places in the encoding between
two characters, and in this order. -/
def byteSlice? (text : String) (start stop : Nat) : Option String :=
  if h : start ≤ stop ∧ String.Pos.Raw.IsValid text ⟨start⟩ ∧
      String.Pos.Raw.IsValid text ⟨stop⟩ then
    some (text.extract ⟨⟨start⟩, h.2.1⟩ ⟨⟨stop⟩, h.2.2⟩)
  else none

/-- The characters from one offset up to another. -/
def charsBetween (text : String) (start stop : Nat) : String :=
  String.ofList ((text.toList.take stop).drop start)

/-- The span of each token, cut out of the encoded text. -/
def byteSpans (text : String) (ts : List Token) : List (Option String) :=
  ts.mapIdx fun i t =>
    let first := byteAt text t.start
    let last := match ts[i + 1]? with
      | none => text.utf8ByteSize
      | some next => byteAt text next.start
    byteSlice? text first (max last first)

theorem getElem?_byteOffsets (start : Nat) (cs : List Char) {i : Nat} (hi : i ≤ cs.length) :
    (byteOffsets start cs)[i]? = some (start + (String.ofList (cs.take i)).utf8ByteSize) := by
  induction cs generalizing start i with
  | nil =>
    obtain rfl : i = 0 := Nat.le_zero.mp hi
    simp [byteOffsets]
  | cons c cs ih =>
    cases i with
    | zero => simp [byteOffsets]
    | succ i =>
      rw [byteOffsets, List.getElem?_cons_succ, ih _ (Nat.le_of_succ_le_succ hi)]
      simp [Nat.add_assoc]

theorem length_byteOffsets (start : Nat) (cs : List Char) :
    (byteOffsets start cs).length = cs.length + 1 := by
  induction cs generalizing start with
  | nil => rfl
  | cons c cs ih => simp [byteOffsets, ih]

/-- A character begins behind the bytes of the characters before it. -/
theorem byteAt_eq (text : String) (i : Nat) :
    byteAt text i = (String.ofList (text.toList.take i)).utf8ByteSize := by
  rcases Nat.lt_or_ge text.toList.length i with hi | hi
  · have hnone : (byteOffsets 0 text.toList)[i]? = none :=
      List.getElem?_eq_none (by rw [length_byteOffsets]; omega)
    rw [byteAt, hnone, List.take_of_length_le (Nat.le_of_lt hi), String.ofList_toList]
    rfl
  · rw [byteAt, getElem?_byteOffsets 0 _ hi, Option.getD_some, Nat.zero_add]

theorem byteAt_length (text : String) : byteAt text text.length = text.utf8ByteSize := by
  rw [byteAt_eq, ← String.length_toList, List.take_length, String.ofList_toList]

theorem byteAt_mono (text : String) {i j : Nat} (h : i ≤ j) :
    byteAt text i ≤ byteAt text j := by
  obtain ⟨rest, hrest⟩ := List.take_prefix_take_left (l := text.toList) h
  rw [byteAt_eq, byteAt_eq, ← hrest, String.ofList_append, String.utf8ByteSize_append]
  exact Nat.le_add_right _ _

theorem max_byteAt (text : String) (i j : Nat) :
    max (byteAt text i) (byteAt text j) = byteAt text (max i j) := by
  rcases Nat.le_total i j with h | h
  · rw [Nat.max_eq_right h, Nat.max_eq_right (byteAt_mono text h)]
  · rw [Nat.max_eq_left h, Nat.max_eq_left (byteAt_mono text h)]

/-- Every offset is a place between two characters. -/
theorem isValid_byteAt (text : String) (i : Nat) :
    String.Pos.Raw.IsValid text ⟨byteAt text i⟩ := by
  rw [String.Pos.Raw.isValid_iff_exists_take_toList]
  exact ⟨i, by rw [byteAt_eq]⟩

/-- The bytes of the middle one of three texts. -/
theorem extract_toByteArray_append (a b c : String) :
    (a ++ b ++ c).toByteArray.extract a.utf8ByteSize (a ++ b).utf8ByteSize = b.toByteArray := by
  have hskip := ByteArray.extract_append_size_add' (a := a.toByteArray) (b := (b ++ c).toByteArray)
    (i := 0) (j := b.utf8ByteSize) String.size_toByteArray.symm
  rw [Nat.add_zero] at hskip
  rw [String.append_assoc, String.toByteArray_append, String.utf8ByteSize_append, hskip,
    String.toByteArray_append, ByteArray.extract_append_eq_left String.size_toByteArray.symm]

/-- The bytes between two offsets are the characters between them. -/
theorem byteSlice?_byteAt (text : String) {i j : Nat} (h : i ≤ j) :
    byteSlice? text (byteAt text i) (byteAt text j) = some (charsBetween text i j) := by
  rw [byteSlice?, dif_pos ⟨byteAt_mono text h, isValid_byteAt text i, isValid_byteAt text j⟩]
  -- the text is what lies before the slice, the slice, and what lies behind it
  have htake : text.toList.take i ++ (text.toList.take j).drop i = text.toList.take j := by
    have := List.take_append_drop i (text.toList.take j)
    rwa [List.take_take, Nat.min_eq_left h] at this
  have htext : String.ofList (text.toList.take i) ++ charsBetween text i j ++
      String.ofList (text.toList.drop j) = text := by
    rw [charsBetween, ← String.ofList_append, ← String.ofList_append, htake,
      List.take_append_drop, String.ofList_toList]
  have hmid := extract_toByteArray_append (String.ofList (text.toList.take i))
    (charsBetween text i j) (String.ofList (text.toList.drop j))
  rw [htext, charsBetween, ← String.ofList_append, htake, ← byteAt_eq, ← byteAt_eq] at hmid
  exact congrArg some (String.toByteArray_inj.mp hmid)

/-! ## Spans by their offsets -/

/-- An end before the beginning may as well be the beginning. -/
theorem charsBetween_max (text : String) (i j : Nat) :
    charsBetween text i (max j i) = charsBetween text i j := by
  rcases Nat.le_total i j with h | h
  · rw [Nat.max_eq_left h]
  · rw [Nat.max_eq_right h, charsBetween, charsBetween,
      List.drop_eq_nil_of_le (List.length_take_le _ _),
      List.drop_eq_nil_of_le (Nat.le_trans (List.length_take_le _ _) h)]

/-- Offsets behind the end may as well be the end. -/
theorem charsBetween_min (text : String) (i j : Nat) :
    charsBetween text (min i text.length) (min j text.length) = charsBetween text i j := by
  have htake : text.toList.take (min j text.length) = text.toList.take j := by
    rw [← String.length_toList, ← List.take_eq_take_min]
  rw [charsBetween, charsBetween, htake]
  rcases Nat.le_total i text.length with h | h
  · rw [Nat.min_eq_left h]
  · have hlen : (text.toList.take j).length ≤ text.length := by
      rw [← String.length_toList]
      exact List.length_take_le' _ _
    rw [Nat.min_eq_right h, List.drop_eq_nil_of_le hlen,
      List.drop_eq_nil_of_le (Nat.le_trans hlen h)]

/-- Where the span of the token at `i` ends, if offsets behind the end are left as they are. -/
def spanEnd (text : String) (ts : List Token) (i : Nat) : Nat :=
  ts[i + 1]?.elim text.length Token.start

theorem length_rawSpans (text : String) (ts : List Token) :
    (rawSpans text ts).length = ts.length := by
  cases ts with
  | nil => rfl
  | cons t ts => simp [rawSpans, spanEnds]

theorem getElem?_spanEnds (text : String) {ts : List Token} {i : Nat} (hi : i < ts.length) :
    (spanEnds text.length ts)[i]? = some (spanEnd text ts i) := by
  rw [spanEnds, List.getElem?_append, spanEnd]
  rcases Nat.lt_or_ge (i + 1) ts.length with hnext | hlast
  · have hmap : i < ((ts.drop 1).map Token.start).length := by simp; omega
    rw [if_pos hmap, List.getElem?_map, List.getElem?_drop, Nat.add_comm 1 i,
      List.getElem?_eq_getElem hnext]
    rfl
  · have hlen : ((ts.drop 1).map Token.start).length = i := by simp; omega
    rw [if_neg (by omega), hlen, Nat.sub_self, List.getElem?_eq_none hlast]
    rfl

/-- A span is the text between two offsets. -/
theorem getElem?_rawSpans (text : String) {ts : List Token} {i : Nat} {t : Token}
    (h : ts[i]? = some t) :
    (rawSpans text ts)[i]? = some (charsBetween text t.start (spanEnd text ts i)) := by
  have hi : i < ts.length := (List.getElem?_eq_some_iff.mp h).1
  rw [rawSpans, List.size_toArray, String.length_toList, List.getElem?_zipWith, h,
    getElem?_spanEnds text hi]
  simp [charsBetween, List.extract_eq_take_drop, List.drop_take]

/-- The slices of the encoded text are the spans. -/
theorem byteSpans_eq (text : String) (ts : List Token) :
    byteSpans text ts = (rawSpans text ts).map some := by
  refine List.ext_getElem? fun i => ?_
  rw [byteSpans, List.getElem?_mapIdx, List.getElem?_map]
  cases ht : ts[i]? with
  | none =>
    have : (rawSpans text ts)[i]? = none := by
      rw [List.getElem?_eq_none_iff, length_rawSpans]
      exact List.getElem?_eq_none_iff.mp ht
    rw [this]; rfl
  | some t =>
    have hlast : (match ts[i + 1]? with
        | none => text.utf8ByteSize
        | some next => byteAt text next.start) = byteAt text (spanEnd text ts i) := by
      rw [spanEnd]
      cases ts[i + 1]? with
      | none => exact (byteAt_length text).symm
      | some next => rfl
    rw [getElem?_rawSpans text ht, Option.map_some, Option.map_some, hlast]
    dsimp only
    rw [max_byteAt, byteSlice?_byteAt text (Nat.le_max_right _ _), charsBetween_max]

/-- What the tokens of a text stand for is the text behind the first of them. -/
theorem reconstruct_cons_eq (text : String) {t : Token} {us vs : List Token}
    (h : (t :: us).Pairwise fun a b => a.start ≤ b.start) (hv : vs.Sublist us) :
    reconstruct text (t :: vs) = String.ofList (text.toList.drop (min t.start text.length)) := by
  rw [reconstruct_eq_drop text (h.sublist (hv.cons_cons t)), ← String.length_toList]
  congr 1
  rw [List.drop_eq_drop_iff]
  omega

/-- **Spans of any tokens**: the tokens need not come from the text. Every slice of the
encoded text lies within it and between characters, and there is one for each token: the
characters from its start up to the next token's start, or to the end, where an offset
behind the end counts as the end and a slice that would end before it begins is empty.
If no start goes back, the spans put together are the text from the first token on,
whichever of the later tokens are left out. -/
theorem rawSpans_of_any_tokens (text : String) (ts : List Token) :
    byteSpans text ts = (rawSpans text ts).map some ∧
    (rawSpans text ts).length = ts.length ∧
    (∀ i t, ts[i]? = some t →
      (rawSpans text ts)[i]? = some (charsBetween text (min t.start text.length)
        (max (min t.start text.length)
          (ts[i + 1]?.elim text.length fun next => min next.start text.length)))) ∧
    (∀ t us, ts = t :: us → ts.Pairwise (fun a b => a.start ≤ b.start) →
      ∀ vs, vs.Sublist us → reconstruct text (t :: vs) =
        String.ofList (text.toList.drop (min t.start text.length))) := by
  refine ⟨byteSpans_eq text ts, length_rawSpans text ts, fun i t ht => ?_, ?_⟩
  · have hend : (ts[i + 1]?.elim text.length fun next => min next.start text.length) =
        min (spanEnd text ts i) text.length := by
      rw [spanEnd]
      cases ts[i + 1]? with
      | none => exact (Nat.min_self _).symm
      | some next => rfl
    rw [getElem?_rawSpans text ht, hend, Nat.max_comm, charsBetween_max, charsBetween_min]
  · rintro t us rfl horder vs hv
    exact reconstruct_cons_eq text horder hv

/-- A token that begins at an offset, with nothing else to it. -/
def emptyAt (start : Nat) : Token := ⟨"", .nil, .start, start, ""⟩

/-- Starts that go back, repeat and lie behind the end, in a text of characters of one to
four bytes; and three tokens in order, the second of them left out. -/
theorem rawSpans_of_any_tokens_wide :
    byteSpans "aé€😀" ([3, 0, 2, 2, 9].map emptyAt) =
      [some "", some "aé", some "", some "€😀", some ""] ∧
    (rawSpans "aé€😀" ([3, 0, 2, 2, 9].map emptyAt))[1]? = some "aé" ∧
    reconstruct "aé€😀" ([1, 3, 9].map emptyAt) = "é€😀" ∧
    reconstruct "aé€😀" ([1, 9].map emptyAt) = "é€😀" := by
  have hany := rawSpans_of_any_tokens "aé€😀" ([3, 0, 2, 2, 9].map emptyAt)
  have hordered := (rawSpans_of_any_tokens "aé€😀" ([1, 3, 9].map emptyAt)).2.2.2
    (emptyAt 1) ([3, 9].map emptyAt) rfl (by decide)
  refine ⟨hany.1.trans (by decide), (hany.2.2.1 1 (emptyAt 0) rfl).trans (by decide),
    (hordered _ (List.Sublist.refl _)).trans (by decide),
    (hordered ([9].map emptyAt) (List.sublist_cons_self _ _)).trans (by decide)⟩

end ScriptLexer
