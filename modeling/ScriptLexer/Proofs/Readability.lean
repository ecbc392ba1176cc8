/-
ScriptLexer.Proofs.Readability — listings can be read back.

A column of a table is filled up but never cut, so where a column ends differs from row
to row; a lexeme may hold blanks, quotation marks, line ends and text that looks like the
next row; and the name of a file may be any text. Still each listing can be read in one
way only. The argument goes piece by piece: a writing is `Readable` if one can tell, with
anything behind it, what it was written for and where it ends, and two readable writings
behind each other are readable again (`Readable.append`).

A number ends at the first character that is no digit, and a quoted text at the first
quotation mark that does not come out of an escape (`readable_quoted`). Rows are made of
such pieces (`Listing.readable_row`), and tables of rows (`Listing.table_eq_iff`). A single
token has the name of its file behind the readable part. There the location is read from
the right instead (`Token.display_injective`).
-/
import Mathlib.Data.List.Forall2
import ScriptLexer.Listing.Table
import ScriptLexer.Text.Escape

namespace ScriptLexer

/-! ## Cuts at a character -/

/-- A text is cut in one way at the first `stop` in it. -/
theorem append_stop_inj {stop : Char} {p q x y : List Char} (hp : stop ∉ p) (hq : stop ∉ q)
    (h : p ++ stop :: x = q ++ stop :: y) : p = q ∧ x = y := by
  induction p generalizing q with
  | nil =>
    cases q with
    | nil => exact ⟨rfl, List.tail_eq_of_cons_eq h⟩
    | cons c q => exact absurd (List.head_eq_of_cons_eq h) (List.ne_of_not_mem_cons hq)
  | cons c p ih =>
    cases q with
    | nil => exact absurd (List.head_eq_of_cons_eq h).symm (List.ne_of_not_mem_cons hp)
    | cons d q =>
      obtain ⟨rfl, htail⟩ := List.cons.inj h
      obtain ⟨rfl, hxy⟩ :=
        ih (List.not_mem_of_not_mem_cons hp) (List.not_mem_of_not_mem_cons hq) htail
      exact ⟨rfl, hxy⟩

/-- A text is cut in one way at the last `stop` in it. -/
theorem append_stop_inj_right {stop : Char} {p q x y : List Char} (hx : stop ∉ x) (hy : stop ∉ y)
    (h : p ++ stop :: x = q ++ stop :: y) : p = q ∧ x = y := by
  have hrev := congrArg List.reverse h
  simp only [List.reverse_append, List.reverse_cons, List.append_assoc,
    List.singleton_append] at hrev
  obtain ⟨hxy, hpq⟩ := append_stop_inj (by simpa using hx) (by simpa using hy) hrev
  exact ⟨List.reverse_injective hpq, List.reverse_injective hxy⟩

/-! ## Writings that end by themselves -/

/-- What is written can be read back with anything behind it: it tells the `key` of what it
was written for, and where it ends. -/
def Readable {α β : Type} (write : α → List Char) (key : α → β) : Prop :=
  ∀ ⦃a b x y⦄, write a ++ x = write b ++ y → key a = key b ∧ x = y

section Readable

variable {α β γ : Type} {f g : α → List Char} {k : α → β} {l : α → γ}

/-- Two writings, one behind the other. -/
theorem Readable.append (hf : Readable f k) (hg : Readable g l) :
    Readable (fun a => f a ++ g a) fun a => (k a, l a) := by
  intro a b x y h
  simp only [List.append_assoc] at h
  obtain ⟨hk, hrest⟩ := hf h
  obtain ⟨hl, hxy⟩ := hg hrest
  exact ⟨Prod.ext hk hl, hxy⟩

/-- A writing of one part of a thing. -/
theorem Readable.comp {δ : Type} (hf : Readable f k) (part : δ → α) :
    Readable (fun d => f (part d)) fun d => k (part d) :=
  fun _ _ _ _ h => hf h

/-- The same text behind every writing. -/
theorem Readable.append_right (hf : Readable f k) (rest : List Char) :
    Readable (fun a => f a ++ rest) k := by
  intro a b x y h
  simp only [List.append_assoc] at h
  obtain ⟨hk, hrest⟩ := hf h
  exact ⟨hk, List.append_cancel_left hrest⟩

/-- A writing closed by a character that is not in it. -/
theorem Readable.of_stop {stop : Char} (hkey : ∀ a b, f a = f b → k a = k b)
    (hstop : ∀ a, stop ∉ f a) : Readable (fun a => f a ++ [stop]) k := by
  intro a b x y h
  simp only [List.append_assoc, List.singleton_append] at h
  obtain ⟨hf, hxy⟩ := append_stop_inj (hstop a) (hstop b) h
  exact ⟨hkey a b hf, hxy⟩

/-- A column filled up with a character that is not in what stands in it, and closed by
that character. -/
theorem Readable.of_rightpad {width : Nat} {fill : Char} (hkey : ∀ a b, f a = f b → k a = k b)
    (hfill : ∀ a, fill ∉ f a) : Readable (fun a => (f a).rightpad width fill ++ [fill]) k := by
  intro a b x y h
  -- the closing character may as well stand before the filling
  have hswap : ∀ c z, (f c).rightpad width fill ++ [fill] ++ z =
      f c ++ fill :: (List.replicate (width - (f c).length) fill ++ z) := by
    intro c z
    rw [List.rightpad, List.append_assoc (f c), ← List.replicate_succ', List.replicate_succ,
      List.append_assoc, List.cons_append]
  rw [hswap, hswap] at h
  obtain ⟨hf, hrest⟩ := append_stop_inj (hfill a) (hfill b) h
  rw [hf] at hrest
  exact ⟨hkey a b hf, List.append_cancel_left hrest⟩

/-- A list of writings, with something behind it that none of them begins. -/
theorem Readable.flatMap_append (hf : Readable f k) {as bs : List α} {x y : List Char}
    (hx : ∀ a z, f a ++ z ≠ x) (hy : ∀ a z, f a ++ z ≠ y)
    (h : as.flatMap f ++ x = bs.flatMap f ++ y) : as.map k = bs.map k ∧ x = y := by
  induction as generalizing bs with
  | nil =>
    cases bs with
    | nil => exact ⟨rfl, h⟩
    | cons b bs =>
      rw [List.flatMap_cons, List.append_assoc] at h
      exact absurd h.symm (hx b _)
  | cons a as ih =>
    rw [List.flatMap_cons, List.append_assoc] at h
    cases bs with
    | nil => exact absurd h (hy a _)
    | cons b bs =>
      rw [List.flatMap_cons, List.append_assoc] at h
      obtain ⟨hk, hrest⟩ := hf h
      obtain ⟨hks, hxy⟩ := ih hrest
      exact ⟨by rw [List.map_cons, List.map_cons, hk, hks], hxy⟩

/-- A list of writings, closed by a character that none of them begins with. -/
theorem Readable.flatMap {stop : Char} (hf : Readable f k) (hstop : ∀ a z w, f a ++ z ≠ stop :: w) :
    Readable (fun as => as.flatMap f ++ [stop]) (List.map k) := by
  intro as bs x y h
  simp only [List.append_assoc, List.singleton_append] at h
  obtain ⟨hk, hxy⟩ :=
    hf.flatMap_append (fun a z => hstop a z x) (fun a z => hstop a z y) h
  exact ⟨hk, List.tail_eq_of_cons_eq hxy⟩

/-- A list of writings that are not empty, with nothing behind it. -/
theorem Readable.map_eq_of_flatMap_eq (hf : Readable f k) (hne : ∀ a, f a ≠ []) {as bs : List α}
    (h : as.flatMap f = bs.flatMap f) : as.map k = bs.map k := by
  have hnil : ∀ a z, f a ++ z ≠ [] := fun a z => List.append_ne_nil_of_left_ne_nil (hne a) z
  exact (hf.flatMap_append hnil hnil (congrArg (· ++ []) h)).1

end Readable

/-! ## Numbers -/

theorem mem_toDigits {b n : Nat} {c : Char} (hb : 1 < b) (h : c ∈ Nat.toDigits b n) :
    ∃ d < b, c = d.digitChar := by
  induction n using Nat.strongRecOn with
  | ind n ih =>
    rw [Nat.toDigits_eq_if hb] at h
    split at h
    · next hn => exact ⟨n, hn, List.mem_singleton.mp h⟩
    · next hn =>
      rcases List.mem_append.mp h with h | h
      · exact ih (n / b) (Nat.div_lt_self (by omega) hb) h
      · exact ⟨n % b, Nat.mod_lt n (by omega), List.mem_singleton.mp h⟩

theorem digitChar_injective : ∀ d < 16, ∀ e < 16, d.digitChar = e.digitChar → d = e := by
  decide

/-- A number is known from its digits, as long as there are digits enough for the base. -/
theorem toDigits_injective {b : Nat} (hb : 1 < b) (hb' : b ≤ 16) {m n : Nat}
    (h : Nat.toDigits b m = Nat.toDigits b n) : m = n := by
  induction m using Nat.strongRecOn generalizing n with
  | ind m ih =>
    rw [Nat.toDigits_eq_if (n := m) hb, Nat.toDigits_eq_if (n := n) hb] at h
    split at h <;> split at h
    · next hm hn => exact digitChar_injective m (by omega) n (by omega) (List.singleton_inj.mp h)
    · next hm hn => simp [List.singleton_eq_append_iff] at h
    · next hm hn => simp [List.append_eq_singleton_iff] at h
    · next hm hn =>
      obtain ⟨hdiv, hlast⟩ := List.append_inj' h rfl
      have hdigit : ∀ i, i % b < 16 := fun i =>
        Nat.lt_of_lt_of_le (Nat.mod_lt i (Nat.zero_lt_of_lt hb)) hb'
      have hquot : m / b = n / b := ih (m / b) (Nat.div_lt_self (by omega) hb) hdiv
      have hmod : m % b = n % b :=
        digitChar_injective _ (hdigit m) _ (hdigit n) (List.singleton_inj.mp hlast)
      rw [← Nat.div_add_mod m b, ← Nat.div_add_mod n b, hquot, hmod]

theorem toString_injective {m n : Nat} (h : (toString m).toList = (toString n).toList) : m = n := by
  rw [Nat.toString_eq_ofList_toDigits, Nat.toString_eq_ofList_toDigits, String.toList_ofList,
    String.toList_ofList] at h
  exact toDigits_injective (by decide) (by decide) h

theorem notMem_toString {c : Char} (hc : c.isDigit = false) (n : Nat) :
    c ∉ (toString n).toList := by
  rw [Nat.toString_eq_ofList_toDigits, String.toList_ofList]
  intro h
  have hdigit := Nat.isDigit_of_mem_toDigits (by decide) (by decide) h
  rw [hc] at hdigit
  cases hdigit

/-! ## Quoted text -/

/-- What stands for a character in a quoted text. -/
inductive Shown (c : Char) : List Char → Prop where
  /-- The character itself. -/
  | plain (hslash : c ≠ '\\') (hquote : c ≠ '"') (hline : c ≠ '\n') : Shown c [c]
  /-- A backslash and a character that stands for it. -/
  | escaped (e : Char) (he : e ≠ 'u') (hline : e ≠ '\n') (hc : Text.unescape e = c) :
      Shown c ['\\', e]
  /-- Its code point. -/
  | coded : Shown c ('\\' :: 'u' :: '\x7b' :: Text.hexDigits c ++ ['\x7d'])

theorem shown_visibleForm (c : Char) : Shown c (Text.visibleForm '"' c) := by
  unfold Text.visibleForm
  split
  · next h => exact .escaped '0' (by decide) (by decide) h.symm
  split
  · next h => exact .escaped 't' (by decide) (by decide) h.symm
  split
  · next h => exact .escaped 'n' (by decide) (by decide) h.symm
  split
  · next h => exact .escaped 'r' (by decide) (by decide) h.symm
  split
  · next h => rcases h with rfl | rfl <;> exact .escaped _ (by decide) (by decide) rfl
  split
  · exact .coded
  · next hline _ h _ => exact .plain (fun hc => h (.inl hc)) (fun hc => h (.inr hc)) hline

theorem Shown.ne_quote {c : Char} {s : List Char} (h : Shown c s) (z w : List Char) :
    s ++ z ≠ '"' :: w := by
  intro heq
  cases h with
  | plain _ hquote _ => exact hquote (List.cons.inj heq).1
  | escaped | coded => cases heq

theorem notMem_hexDigits {s : Char} (hs : ∀ d < 16, s ≠ d.digitChar) (c : Char) :
    s ∉ Text.hexDigits c := by
  intro h
  obtain ⟨d, hd, hc⟩ := mem_toDigits (by decide) h
  exact hs d hd hc

theorem hexDigits_injective {c d : Char} (h : Text.hexDigits c = Text.hexDigits d) : c = d :=
  Char.toNat_inj.mp (toDigits_injective (by decide) (by decide) h)

/-- Nothing that stands for one character begins what stands for another. -/
theorem Shown.unique {c d : Char} {s t x y : List Char} (hs : Shown c s) (ht : Shown d t)
    (h : s ++ x = t ++ y) : c = d ∧ x = y := by
  cases hs with
  | plain hslash =>
    cases ht with
    | plain => exact List.cons.inj h
    | escaped | coded => exact absurd (List.cons.inj h).1 hslash
  | escaped e he _ hc =>
    cases ht with
    | plain hslash => exact absurd (List.cons.inj h).1.symm hslash
    | escaped e' _ _ hd =>
      obtain ⟨rfl, hxy⟩ := List.cons.inj (List.cons.inj h).2
      exact ⟨hc.symm.trans hd, hxy⟩
    | coded => exact absurd (List.cons.inj (List.cons.inj h).2).1 he
  | coded =>
    cases ht with
    | plain hslash => exact absurd (List.cons.inj h).1.symm hslash
    | escaped e' he' => exact absurd (List.cons.inj (List.cons.inj h).2).1.symm he'
    | coded =>
      simp only [List.cons_append, List.cons.injEq, true_and, List.append_assoc] at h
      obtain ⟨hdigits, hxy⟩ :=
        append_stop_inj (notMem_hexDigits (by decide) c) (notMem_hexDigits (by decide) d) h
      exact ⟨hexDigits_injective hdigits, hxy⟩

theorem readable_visibleForm : Readable (Text.visibleForm '"') id :=
  fun c d _ _ h => (shown_visibleForm c).unique (shown_visibleForm d) h

theorem readable_enclose : Readable (Text.enclose '"') id := by
  intro a b x y h
  obtain ⟨hkey, hxy⟩ :=
    readable_visibleForm.flatMap (fun c => (shown_visibleForm c).ne_quote) (List.cons.inj h).2
  rw [List.map_id, List.map_id] at hkey
  exact ⟨hkey, hxy⟩

theorem Shown.newline_notMem {c : Char} {s : List Char} (h : Shown c s) : '\n' ∉ s := by
  cases h with
  | plain _ _ hline => simpa using hline.symm
  | escaped e _ hline _ => simpa using hline.symm
  | coded => simpa using notMem_hexDigits (by decide) c

/-- A quoted text tells what is quoted, and where the quotation ends. -/
theorem readable_quoted : Readable (fun text => (Text.quoted text).toList) id := by
  intro a b x y h
  simp only [Text.quoted, String.toList_ofList] at h
  obtain ⟨hkey, hxy⟩ := readable_enclose h
  exact ⟨String.toList_inj.mp hkey, hxy⟩

theorem newline_notMem_quoted (text : String) : '\n' ∉ (Text.quoted text).toList := by
  rw [Text.quoted, String.toList_ofList]
  intro h
  simp only [Text.enclose, List.cons_append, List.mem_cons, List.mem_append, List.mem_flatMap,
    List.not_mem_nil, or_false] at h
  rcases h with h | ⟨c, -, hc⟩ | h
  · cases h
  · exact (shown_visibleForm c).newline_notMem hc
  · cases h

/-! ## Locations and kinds -/

theorem Location.eq_iff {l m : Location} : l = m ↔ l.line = m.line ∧ l.column = m.column := by
  cases l
  cases m
  rw [Location.mk.injEq]

theorem Location.toList_display (l : Location) :
    l.display.toList = (toString l.line).toList ++ ':' :: (toString l.column).toList := by
  simp [Location.display]

theorem Location.display_injective {l m : Location} (h : l.display.toList = m.display.toList) :
    l = m := by
  rw [l.toList_display, m.toList_display] at h
  obtain ⟨hline, hcolumn⟩ :=
    append_stop_inj (notMem_toString rfl l.line) (notMem_toString rfl m.line) h
  exact eq_iff.mpr ⟨toString_injective hline, toString_injective hcolumn⟩

theorem Location.notMem_display {c : Char} (hdigit : c.isDigit = false) (hcolon : c ≠ ':')
    (l : Location) : c ∉ l.display.toList := by
  rw [l.toList_display, List.mem_append, List.mem_cons]
  rintro (h | h | h)
  · exact notMem_toString hdigit _ h
  · exact hcolon h
  · exact notMem_toString hdigit _ h

theorem TokenKind.name_injective {a b : TokenKind} (h : a.name.toList = b.name.toList) : a = b := by
  cases a <;> cases b <;> first | rfl | (revert h; decide)

theorem TokenKind.notMem_name {c : Char} (hc : c.isAlpha = false) (k : TokenKind) :
    c ∉ k.name.toList := by
  have hall : k.name.toList.all Char.isAlpha = true := by cases k <;> decide
  intro h
  have halpha := List.all_eq_true.mp hall c h
  rw [hc] at halpha
  cases halpha

/-! ## Rows -/

namespace Listing

/-- The line of a token, without the newline that ends it. -/
def line (t : Token) : List Char := (row t).dropLast

theorem row_eq_line (t : Token) : row t = line t ++ ['\n'] := by
  rw [line, row, List.dropLast_concat]

theorem newline_notMem_line (t : Token) : '\n' ∉ line t := by
  have hlocation := t.location.notMem_display (c := '\n') rfl (by decide)
  have hname := t.kind.notMem_name (c := '\n') rfl
  have hlexeme := newline_notMem_quoted t.lexeme
  rw [line, row, List.dropLast_concat]
  simp [List.rightpad, hlocation, hname, hlexeme]

/-- What a row shows of a token. -/
def entry (t : Token) : Location × TokenKind × String := (t.location, t.kind, t.lexeme)

theorem entry_eq_iff {t u : Token} : entry t = entry u ↔ t.location.line = u.location.line ∧
    t.location.column = u.location.column ∧ t.kind = u.kind ∧ t.lexeme = u.lexeme := by
  rw [entry, entry, Prod.mk.injEq, Prod.mk.injEq, Location.eq_iff, and_assoc]

theorem row_congr {t u : Token} (h : entry t = entry u) : row t = row u := by
  obtain ⟨hlocation, hkind, hlexeme⟩ : t.location = u.location ∧ t.kind = u.kind ∧
    t.lexeme = u.lexeme := by simpa [entry] using h
  rw [row, row, hlocation, hkind, hlexeme]

/-- A row tells what it shows of the token, and where the next row begins. -/
theorem readable_row : Readable row entry := by
  have hlocation : Readable
      (fun l : Location => l.display.toList.rightpad locationWidth ' ' ++ [' ']) id :=
    .of_rightpad (fun _ _ => Location.display_injective) (Location.notMem_display rfl (by decide))
  have hkind : Readable
      (fun k : TokenKind => k.name.toList.rightpad kindWidth ' ' ++ [' ']) id :=
    .of_rightpad (fun _ _ => TokenKind.name_injective) (TokenKind.notMem_name rfl)
  have hrow := (hlocation.comp Token.location).append <| (hkind.comp Token.kind).append <|
    (readable_quoted.comp Token.lexeme).append_right ['\n']
  -- a row is written as one text, with no bounds between its columns
  have hassoc : ∀ t, row t = t.location.display.toList.rightpad locationWidth ' ' ++ [' '] ++
      (t.kind.name.toList.rightpad kindWidth ' ' ++ [' '] ++
        ((Text.quoted t.lexeme).toList ++ ['\n'])) := by
    intro t
    simp only [row, List.append_assoc, List.cons_append, List.nil_append]
  rw [funext hassoc]
  exact hrow

/-! ## Tables -/

/-- The lines of a text, without the newlines that end them and without what stands
behind the last newline. -/
def lines (text : String) : List (List Char) := (text.toList.splitOn '\n').dropLast

/-- The text that has these lines. -/
def unlines (ls : List (List Char)) : String := String.ofList (ls.flatMap (· ++ ['\n']))

theorem splitOn_table (ts : List Token) :
    (table ts).toList.splitOn '\n' = ts.map line ++ [[]] := by
  rw [table, String.toList_ofList]
  induction ts with
  | nil => rfl
  | cons t ts ih =>
    rw [List.flatMap_cons, row_eq_line, List.append_assoc, List.singleton_append,
      List.splitOn_append_cons_self_of_not_mem (newline_notMem_line t), ih]
    rfl

theorem lines_table (ts : List Token) : lines (table ts) = ts.map line := by
  rw [lines, splitOn_table, List.dropLast_concat]

theorem table_eq_unlines (ts : List Token) : table ts = unlines (ts.map line) := by
  rw [table, unlines, List.flatMap_map, funext row_eq_line]

theorem table_eq_iff {ts us : List Token} :
    table ts = table us ↔ List.Forall₂ (fun t u => entry t = entry u) ts us := by
  rw [table, table, String.ofList_inj]
  constructor
  · intro h
    have hmap := readable_row.map_eq_of_flatMap_eq (by simp [row]) h
    rwa [← List.forall₂_eq_eq_eq, List.forall₂_map_left_iff, List.forall₂_map_right_iff] at hmap
  · intro h
    induction h with
    | nil => rfl
    | cons hentry _ ih => rw [List.flatMap_cons, List.flatMap_cons, row_congr hentry, ih]

/-- Leaving tokens out of a table leaves out their lines and nothing else. -/
theorem table_significant (ts : List Token) :
    table (Token.significant ts) =
      unlines (((ts.zip (lines (table ts))).filter fun p => !p.1.isTrivia).map Prod.snd) := by
  rw [lines_table, table_eq_unlines, Token.significant, ← List.map_prod_left_eq_zip,
    List.filter_map, List.map_map]
  simp only [Function.comp_def]

end Listing

/-! ## Single tokens -/

/-- The written form of a token tells all of it but its offset. -/
theorem Token.display_injective {t u : Token} (h : t.display = u.display) :
    t.kind = u.kind ∧ t.lexeme = u.lexeme ∧ t.filename = u.filename ∧ t.location = u.location := by
  have hkind : Readable (fun k : TokenKind => k.name.toList ++ ['(']) id :=
    .of_stop (fun _ _ => TokenKind.name_injective) (TokenKind.notMem_name rfl)
  have hfront := (hkind.comp Token.kind).append <|
    (readable_quoted.comp Token.lexeme).append_right ") at ".toList
  have hparts : ∀ t : Token, t.display.toList = t.kind.name.toList ++ ['('] ++
      ((Text.quoted t.lexeme).toList ++ ") at ".toList) ++
      (t.filename.toList ++ ':' :: (toString t.location.line).toList ++
        ':' :: (toString t.location.column).toList) := by
    intro t
    simp [Token.display, t.location.toList_display]
  have hlist := congrArg String.toList h
  rw [hparts, hparts] at hlist
  obtain ⟨hkey, hback⟩ := hfront hlist
  -- the name of the file may hold colons, so the location is read from the right
  obtain ⟨hfileline, hcolumn⟩ :=
    append_stop_inj_right (notMem_toString rfl _) (notMem_toString rfl _) hback
  obtain ⟨hfile, hline⟩ :=
    append_stop_inj_right (notMem_toString rfl _) (notMem_toString rfl _) hfileline
  obtain ⟨hkind, hlexeme⟩ := Prod.mk.inj hkey
  exact ⟨hkind, hlexeme, String.toList_inj.mp hfile,
    Location.eq_iff.mpr ⟨toString_injective hline, toString_injective hcolumn⟩⟩

/-- **Listings are uniquely readable**: two tables are the same exactly if they list as many
tokens, which agree one by one in line, column, kind and lexeme. Each token takes one line
that a newline ends, so the table without whitespace and comments is the table without
their lines. A single token is written the same as another exactly if they agree in kind,
lexeme, file, line and column; nothing is asked of the file's name. -/
theorem listings_uniquely_readable :
    (∀ ts us, Listing.table ts = Listing.table us ↔
      List.Forall₂ (fun t u => t.location.line = u.location.line ∧
        t.location.column = u.location.column ∧ t.kind = u.kind ∧ t.lexeme = u.lexeme) ts us) ∧
    (∀ ts, (Listing.table ts).toList.splitOn '\n' = ts.map Listing.line ++ [[]]) ∧
    (∀ ts, Listing.table (Token.significant ts) =
      Listing.unlines (((ts.zip (Listing.lines (Listing.table ts))).filter
        fun p => !p.1.isTrivia).map Prod.snd)) ∧
    (∀ t u : Token, t.display = u.display ↔ t.kind = u.kind ∧ t.lexeme = u.lexeme ∧
      t.filename = u.filename ∧ t.location.line = u.location.line ∧
      t.location.column = u.location.column) := by
  refine ⟨fun ts us => ?_, Listing.splitOn_table, Listing.table_significant, fun t u => ⟨?_, ?_⟩⟩
  · rw [Listing.table_eq_iff]
    simp only [Listing.entry_eq_iff]
  · intro h
    obtain ⟨hkind, hlexeme, hfile, hlocation⟩ := Token.display_injective h
    exact ⟨hkind, hlexeme, hfile, Location.eq_iff.mp hlocation⟩
  · rintro ⟨hkind, hlexeme, hfile, hlocation⟩
    rw [Token.display, Token.display, hkind, hlexeme, hfile, Location.eq_iff.mpr hlocation]

end ScriptLexer
