import SqlTemplate.Proofs.Binding.Numeric
import SqlTemplate.Proofs.Numeral.Literal
import SqlTemplate.Proofs.Text.Separated

/-! Containers that are written as the same text. If no string in them holds the quote that is put
around it, each item is written the same in both. -/
namespace SqlTemplate

/-- The value is no string with the character in it. -/
def Value.Avoids (c : Char) (v : Value) : Prop := ∀ text, v = .str text → c ∉ text

/-- The text of an item: something in quotes, or a word without a quote and without the character that
a separator begins with. -/
inductive ItemText : Text → Prop
  | quoted {text : Text} (free : '\'' ∉ text) : ItemText (dataQuote ++ text ++ dataQuote)
  | word {text : Text} (ne_nil : text ≠ []) (free : ∀ c ∈ text, c ≠ '\'' ∧ c ≠ ',') : ItemText text

section
variable {text : Text}

theorem ItemText.ne_nil (h : ItemText text) : text ≠ [] := by
  cases h with
  | quoted => exact List.cons_ne_nil _ _
  | word ne_nil => exact ne_nil

theorem Numeral.Laid.itemText {n : Numeral} (h : n.Laid) : ItemText n.text := by
  obtain ⟨c, more, htext, -⟩ := h.exists_text_cons
  have hfree : ∀ d ∈ Numeral.laidCharacters, d ≠ '\'' ∧ d ≠ ',' :=
    Numeral.forall_laidCharacters (by decide)
  exact .word (htext ▸ List.cons_ne_nil c more) fun d hd => hfree d (h.mem_laidCharacters hd)

theorem itemText_of_quoteScalar {v : Value} (hv : v.Avoids '\'')
    (h : quoteScalar dataQuote v = .ok text) : ItemText text := by
  cases v with
  | null =>
    cases h
    exact .word (by decide) (by simp)
  | bool b =>
    cases b <;> cases h <;> exact .word (by decide) (by simp)
  | int i =>
    rw [intText_eq_ok h, ← Numeral.text_ofInteger]
    exact (Numeral.plain_ofInteger i).laid.itemText
  | double d =>
    obtain ⟨n, hn, rfl⟩ := exists_plain_of_doubleText h
    exact hn.laid.itemText
  | str inner =>
    cases h
    exact .quoted (hv inner rfl)
  | sequence | range | mapping | skip | bytes | set | foreign => cases h

/-- A word ends where the first separator begins. -/
theorem takeWhile_append_of_endsPiece {rest : Text} (h : ∀ c ∈ text, c ≠ ',')
    (hrest : Text.EndsPiece separator rest) : (text ++ rest).takeWhile (· ≠ ',') = text := by
  have hstop : rest.takeWhile (· ≠ ',') = [] := by
    rcases hrest with rfl | ⟨more, rfl⟩ <;> rfl
  rw [List.takeWhile_append_of_pos fun c hc => decide_eq_true (h c hc), hstop, List.append_nil]

/-- A quote shows of what kind the text is, and the next quote or the separator where it ends. -/
theorem ItemText.cut {next u v : Text} (htext : ItemText text) (hnext : ItemText next)
    (hu : Text.EndsPiece separator u) (hv : Text.EndsPiece separator v)
    (heq : text ++ u = next ++ v) : text = next := by
  have hquote {inner word rest more : Text} (hne : word ≠ [])
      (hfree : ∀ c ∈ word, c ≠ '\'' ∧ c ≠ ',') :
      dataQuote ++ inner ++ dataQuote ++ rest ≠ word ++ more := by
    obtain ⟨c, tail, rfl⟩ := List.exists_cons_of_ne_nil hne
    intro hsame
    exact (hfree c List.mem_cons_self).1 (List.cons.inj hsame).1.symm
  cases htext with
  | quoted free =>
    cases hnext with
    | quoted again =>
      simp only [dataQuote, List.append_assoc, List.cons_append, List.cons.injEq, true_and] at heq
      rw [(Text.append_cons_inj free again heq).1]
    | word ne_nil again => exact (hquote ne_nil again heq).elim
  | word ne_nil free =>
    cases hnext with
    | quoted again => exact (hquote ne_nil free heq.symm).elim
    | word _ again =>
      rw [← takeWhile_append_of_endsPiece (fun c hc => (free c hc).2) hu, heq,
        takeWhile_append_of_endsPiece (fun c hc => (again c hc).2) hv]

theorem separable_items : Text.Separable separator id ItemText where
  ne_nil _ h := h.ne_nil
  cut := ItemText.cut

end

/-! An entry is told apart by its key up to the second backtick, and then by its value. -/

/-- The text of an entry from that of its key and that of its value. -/
def entryOf (parts : Text × Text) : Text :=
  identifierQuote ++ parts.1 ++ identifierQuote ++ " = ".toList ++ parts.2

/-- The two parts show where each of them ends. -/
structure EntryParts (parts : Text × Text) : Prop where
  key : '\x60' ∉ parts.1
  value : ItemText parts.2

theorem separable_entries : Text.Separable separator entryOf EntryParts where
  ne_nil _ _ := List.cons_ne_nil _ _
  cut := by
    intro x y u v hx hy hu hv heq
    have hkeys : x.1 ++ '\x60' :: (" = ".toList ++ (x.2 ++ u)) =
        y.1 ++ '\x60' :: (" = ".toList ++ (y.2 ++ v)) := by
      simpa [entryOf, identifierQuote] using heq
    obtain ⟨hkey, hrest⟩ := Text.append_cons_inj hx.key hy.key hkeys
    exact Prod.ext hkey (hx.value.cut hy.value hu hv (List.append_cancel_left hrest))

section
variable {entries : List (Value × Value)} {texts : List Text}

theorem not_mem_of_keyText {key : Value} {text : Text} (hkey : key.Avoids '\x60')
    (h : keyText key = .ok text) : '\x60' ∉ text := by
  cases key with
  | str _ =>
    cases h
    exact hkey _ rfl
  | int i =>
    rw [intText_eq_ok h, ← Numeral.text_ofInteger]
    intro hmem
    exact absurd ((Numeral.plain_ofInteger i).laid.mem_laidCharacters hmem) (by decide)
  | null | bool | double | sequence | range | mapping | skip | bytes | set | foreign => cases h

/-- The outcomes for the key and for the value, each by itself. -/
def partsOf (entry : Value × Value) : Except FormatError Text × Except FormatError Text :=
  (keyText entry.1, quoteScalar dataQuote entry.2)

theorem exists_parts_of_entryText {entry : Value × Value} {text : Text}
    (h : entryText entry = .ok text) :
    ∃ parts : Text × Text, partsOf entry = (.ok parts.1, .ok parts.2) ∧ text = entryOf parts := by
  obtain ⟨key, hkey, hrest⟩ := Outcome.bind_eq_ok_iff.mp h
  obtain ⟨value, hvalue, ⟨⟩⟩ := Outcome.bind_eq_ok_iff.mp hrest
  exact ⟨(key, value), by rw [partsOf, hkey, hvalue], rfl⟩

theorem exists_parts_of_mapM (h : entries.mapM entryText = .ok texts) :
    ∃ parts : List (Text × Text),
      entries.map partsOf = parts.map (fun p => (.ok p.1, .ok p.2)) ∧
        texts = parts.map entryOf := by
  rw [Outcome.mapM_eq_ok_iff] at h
  induction entries generalizing texts with
  | nil => exact ⟨[], rfl, List.map_eq_nil_iff.mp h.symm⟩
  | cons entry entries ih =>
    cases texts with
    | nil => cases h
    | cons text texts =>
      obtain ⟨hentry, hrest⟩ := List.cons.inj h
      obtain ⟨part, hpart, rfl⟩ := exists_parts_of_entryText hentry
      obtain ⟨parts, hparts, rfl⟩ := ih hrest
      exact ⟨part :: parts, by rw [List.map_cons, List.map_cons, hpart, hparts], rfl⟩

theorem entryParts_of_map {parts : List (Text × Text)}
    (hentries : ∀ e ∈ entries, e.1.Avoids '\x60' ∧ e.2.Avoids '\'')
    (h : entries.map partsOf = parts.map (fun p => (.ok p.1, .ok p.2))) :
    ∀ p ∈ parts, EntryParts p := by
  intro p hp
  have hmem : (.ok p.1, .ok p.2) ∈ entries.map partsOf := by
    rw [h]
    exact List.mem_map_of_mem hp
  obtain ⟨e, he, hparts⟩ := List.mem_map.mp hmem
  obtain ⟨hkey, hvalue⟩ := Prod.mk.inj hparts
  exact ⟨not_mem_of_keyText (hentries e he).1 hkey,
    itemText_of_quoteScalar (hentries e he).2 hvalue⟩

end

section
variable {v w : Value} {text : Text}

theorem formatValue_sequence {items : List Value} (h : v.sequence? = some items) :
    formatValue .array v = Text.join separator <$> items.mapM (formatValue .plain) := by
  have hsequence : (v.isSequence || v.isMapping) = true := by simp [Value.isSequence, h]
  rw [formatValue, if_pos hsequence, expand_of_sequence h]
  rfl

theorem formatValue_mapping {entries : List (Value × Value)} {s : Specifier}
    (h : v.mapping? = some entries) (hs : s ∈ [.array, .identifier]) :
    formatValue s v = Text.join separator <$> entries.mapM entryText := by
  have hmapping : (v.isSequence || v.isMapping) = true := by simp [Value.isMapping, h]
  simp only [List.mem_cons, List.not_mem_nil, or_false] at hs
  rcases hs with rfl | rfl <;> rw [formatValue, if_pos hmapping, expand_of_mapping h]

theorem sequence_unambiguous {xs ys : List Value} (hv : v.sequence? = some xs)
    (hw : w.sequence? = some ys) (hxs : ∀ x ∈ xs, x.Avoids '\'') (hys : ∀ y ∈ ys, y.Avoids '\'')
    (hfirst : formatValue .array v = .ok text) (hsecond : formatValue .array w = .ok text) :
    xs.map (formatValue .plain) = ys.map (formatValue .plain) := by
  have hitem {items : List Value} {texts : List Text} (heach : ∀ x ∈ items, x.Avoids '\'')
      (hmap : items.mapM (formatValue .plain) = .ok texts) : ∀ t ∈ texts, ItemText t := by
    intro t ht
    obtain ⟨x, hx, hwritten⟩ := Outcome.exists_of_mem_mapM hmap ht
    exact itemText_of_quoteScalar (heach x hx) hwritten
  rw [formatValue_sequence hv] at hfirst
  rw [formatValue_sequence hw] at hsecond
  obtain ⟨texts, htexts, hjoin⟩ := Outcome.map_eq_ok_iff.mp hfirst
  obtain ⟨again, hagain, hsame⟩ := Outcome.map_eq_ok_iff.mp hsecond
  have heq : texts = again :=
    separable_items.join_inj (List.cons_ne_nil _ _) (hitem hxs htexts) (hitem hys hagain)
      (by rw [List.map_id, List.map_id, hjoin, hsame])
  rw [Outcome.mapM_eq_ok_iff.mp htexts, heq, Outcome.mapM_eq_ok_iff.mp hagain]

theorem mapping_unambiguous {entries others : List (Value × Value)} {s s' : Specifier}
    (hv : v.mapping? = some entries) (hw : w.mapping? = some others)
    (hs : s ∈ [.array, .identifier]) (hs' : s' ∈ [.array, .identifier])
    (hentries : ∀ e ∈ entries, e.1.Avoids '\x60' ∧ e.2.Avoids '\'')
    (hothers : ∀ e ∈ others, e.1.Avoids '\x60' ∧ e.2.Avoids '\'')
    (hfirst : formatValue s v = .ok text) (hsecond : formatValue s' w = .ok text) :
    entries.map partsOf = others.map partsOf := by
  rw [formatValue_mapping hv hs] at hfirst
  rw [formatValue_mapping hw hs'] at hsecond
  obtain ⟨texts, htexts, hjoin⟩ := Outcome.map_eq_ok_iff.mp hfirst
  obtain ⟨again, hagain, hsame⟩ := Outcome.map_eq_ok_iff.mp hsecond
  obtain ⟨parts, hparts, rfl⟩ := exists_parts_of_mapM htexts
  obtain ⟨more, hmore, rfl⟩ := exists_parts_of_mapM hagain
  have heq : parts = more :=
    separable_entries.join_inj (List.cons_ne_nil _ _) (entryParts_of_map hentries hparts)
      (entryParts_of_map hothers hmore) (hjoin.trans hsame.symm)
  rw [hparts, heq, hmore]

end

/-- Two sequences without a single quote in their strings are written as the same text only if they
have the same number of items and these are written the same one by one. Two mappings, without a
backtick in their keys and without a single quote in their strings, are written as the same text only
if the same keys and values are written in the same order. -/
theorem formatValue_unambiguous (v w : Value) (text : Text) :
    (∀ xs ys, v.sequence? = some xs → w.sequence? = some ys →
      (∀ x ∈ xs ++ ys, x.Avoids '\'') →
      formatValue .array v = .ok text → formatValue .array w = .ok text →
      xs.map (formatValue .plain) = ys.map (formatValue .plain)) ∧
    (∀ entries others, v.mapping? = some entries → w.mapping? = some others →
      (∀ e ∈ entries ++ others, e.1.Avoids '\x60' ∧ e.2.Avoids '\'') →
      ∀ s ∈ [.array, .identifier], ∀ s' ∈ [.array, .identifier],
      formatValue s v = .ok text → formatValue s' w = .ok text →
      entries.map (fun e => (keyText e.1, formatValue .plain e.2)) =
        others.map (fun e => (keyText e.1, formatValue .plain e.2))) := by
  constructor
  · intro xs ys hv hw hitems hfirst hsecond
    obtain ⟨hxs, hys⟩ := List.forall_mem_append.mp hitems
    exact sequence_unambiguous hv hw hxs hys hfirst hsecond
  · intro entries others hv hw hall s hs s' hs' hfirst hsecond
    obtain ⟨hentries, hothers⟩ := List.forall_mem_append.mp hall
    exact mapping_unambiguous hv hw hs hs' hentries hothers hfirst hsecond

/-- A separator inside quotes, and backticks inside a value; an integer and the double that equals it
are not told apart, nor are an integer key and its digits. -/
theorem formatValue_unambiguous_separators :
    (let first := [.str "1, 2".toList, .int 3]
     let second := [.str "1, 2".toList, .double (.ofDecimal false 3 0)]
     formatValue .array (.list first) = .ok "'1, 2', 3".toList ∧
       formatValue .array (.sequence .tuple second) = .ok "'1, 2', 3".toList ∧
       first.map (formatValue .plain) = second.map (formatValue .plain)) ∧
    (let first := [(.int 1, .str "\x60, \x60".toList), (.str ['2'], .null)]
     let second := [(.str ['1'], .str "\x60, \x60".toList), (.int 2, .null)]
     let text := "\x601\x60 = '\x60, \x60', \x602\x60 = NULL".toList
     formatValue .array (.dict first) = .ok text ∧
       formatValue .identifier (.dict second) = .ok text ∧
       first.map (fun e => (keyText e.1, formatValue .plain e.2)) =
         second.map (fun e => (keyText e.1, formatValue .plain e.2))) := by
  have hlist : formatValue .array (.list [.str "1, 2".toList, .int 3]) =
      .ok "'1, 2', 3".toList := Outcome.toOption_eq_some_iff.mp (by decide +kernel)
  have htuple : formatValue .array
      (.sequence .tuple [.str "1, 2".toList, .double (.ofDecimal false 3 0)]) =
      .ok "'1, 2', 3".toList := Outcome.toOption_eq_some_iff.mp (by decide +kernel)
  have hfirst : formatValue .array
      (.dict [(.int 1, .str "\x60, \x60".toList), (.str ['2'], .null)]) =
      .ok "\x601\x60 = '\x60, \x60', \x602\x60 = NULL".toList :=
    Outcome.toOption_eq_some_iff.mp (by decide +kernel)
  have hsecond : formatValue .identifier
      (.dict [(.str ['1'], .str "\x60, \x60".toList), (.int 2, .null)]) =
      .ok "\x601\x60 = '\x60, \x60', \x602\x60 = NULL".toList :=
    Outcome.toOption_eq_some_iff.mp (by decide +kernel)
  refine ⟨⟨hlist, htuple, ?_⟩, hfirst, hsecond, ?_⟩
  · exact (formatValue_unambiguous _ _ _).1 _ _ rfl rfl (by simp [Value.Avoids]) hlist htuple
  · exact (formatValue_unambiguous _ _ _).2 _ _ rfl rfl (by simp [Value.Avoids])
      .array (by decide) .identifier (by decide) hfirst hsecond

/-- A quote inside quotes can stand for the end of an item. -/
example : formatValue .array (.list [.str "a', 'b".toList]) =
    formatValue .array (.list [.str ['a'], .str ['b']]) := rfl

end SqlTemplate
