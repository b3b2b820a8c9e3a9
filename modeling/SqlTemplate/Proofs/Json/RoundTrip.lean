import SqlTemplate.Proofs.Json.Lossless
import SqlTemplate.Proofs.Json.Number

/-! Values that are written as JSON and read again. Reading stops where writing did, whatever text
comes after, so that items and entries can be put one after another. -/
namespace SqlTemplate.Json

/-! Reading over blanks. -/

/-- A text that blanks do not start. -/
def StartsSolid (text : Text) : Prop := ∀ c ∈ text.head?, Cursor.isSpace c = false

theorem Cursor.skipSpaces_append {gap rest : Text} (hgap : Blank gap) (hrest : StartsSolid rest)
    (position : Nat) : (⟨position, gap ++ rest⟩ : Cursor).skipSpaces =
      ⟨position + gap.length, rest⟩ := by
  have hspan : (gap ++ rest).takeWhile Cursor.isSpace = gap := by
    rw [List.takeWhile_append_of_pos hgap]
    cases rest with
    | nil => simp
    | cons c rest => simp [hrest c rfl]
  rw [Cursor.skipSpaces, hspan, Cursor.skip_append]

theorem Cursor.skipSpaces_solid {rest : Text} (hrest : StartsSolid rest) (position : Nat) :
    (⟨position, rest⟩ : Cursor).skipSpaces = ⟨position, rest⟩ :=
  @Cursor.skipSpaces_append [] rest nofun hrest position

theorem endsNumber_gap {gap rest : Text} (hgap : Blank gap) (hrest : EndsNumber rest) :
    EndsNumber (gap ++ rest) := by
  cases gap with
  | nil => exact hrest
  | cons c gap =>
    rintro _ ⟨⟩
    rcases hgap.eq c List.mem_cons_self with rfl | rfl | rfl | rfl <;> decide

/-- A value is read from its text, which neither a blank nor a closing bracket starts, and nothing
after it is read. -/
structure ReadsBack (l : Layout) (level : Nat) (v : Value) : Prop where
  start : ∃ c more, write l level v = c :: more ∧ Cursor.isSpace c = false ∧ c ≠ ']'
  read : ∀ fuel position rest, 2 * (write l level v).length ≤ fuel → EndsNumber rest →
    ∃ after, value fuel ⟨position, write l level v ++ rest⟩ = .ok (v, ⟨after, rest⟩)

theorem solid_cons {c : Char} {rest : Text} (h : Cursor.isSpace c = false) :
    StartsSolid (c :: rest) := by
  rintro _ ⟨⟩
  exact h

theorem ReadsBack.solid {l : Layout} {level : Nat} {v : Value} (h : ReadsBack l level v)
    (rest : Text) : StartsSolid (write l level v ++ rest) := by
  obtain ⟨c, more, hwrite, hspace, -⟩ := h.start
  rw [hwrite]
  exact solid_cons hspace

section
variable {l : Layout} {level : Nat} {gap : Text}

theorem writeItems_cons_cons (v w : Value) (vs : List Value) :
    writeItems l level (v :: w :: vs) =
      write l level v ++ l.separator level ++ writeItems l level (w :: vs) := rfl

theorem writeEntries_cons_cons (e e' : Text × Value) (pairs : List (Text × Value)) :
    writeEntries l level (named (e :: e' :: pairs)) =
      stringText e.1 ++ ':' :: ' ' :: write l level e.2 ++ l.separator level ++
        writeEntries l level (named (e' :: pairs)) := rfl

theorem exists_writeItems_cons {v : Value} (vs : List Value) (h : ReadsBack l level v) :
    ∃ c more, writeItems l level (v :: vs) = c :: more ∧ Cursor.isSpace c = false ∧ c ≠ ']' := by
  obtain ⟨c, more, hwrite, hstart⟩ := h.start
  cases vs with
  | nil => exact ⟨c, more, hwrite, hstart⟩
  | cons w vs =>
    refine ⟨c, more ++ l.separator level ++ writeItems l level (w :: vs), ?_, hstart⟩
    rw [writeItems_cons_cons, hwrite, List.cons_append, List.cons_append]

theorem solid_writeItems {v : Value} {vs : List Value} (h : ReadsBack l level v) (rest : Text) :
    StartsSolid (writeItems l level (v :: vs) ++ rest) := by
  obtain ⟨c, more, hwrite, hspace, -⟩ := exists_writeItems_cons vs h
  rw [hwrite]
  exact solid_cons hspace

/-- The items of a list are read up to the closing bracket. -/
theorem items_writeItems {vs : List Value} (hne : vs ≠ []) (hread : ∀ v ∈ vs, ReadsBack l level v)
    (hgap : Blank gap) (fuel position : Nat) (rest : Text)
    (hfuel : 2 * (writeItems l level vs).length < fuel) :
    ∃ after, items fuel ⟨position, writeItems l level vs ++ (gap ++ ']' :: rest)⟩ =
      .ok (vs, ⟨after, rest⟩) := by
  induction vs generalizing fuel position with
  | nil => exact (hne rfl).elim
  | cons v vs ih =>
    obtain ⟨fuel, rfl⟩ := Nat.exists_eq_succ_of_ne_zero (Nat.ne_zero_of_lt hfuel)
    obtain ⟨hv, hvs⟩ := List.forall_mem_cons.mp hread
    cases vs with
    | nil =>
      have hends : EndsNumber (gap ++ ']' :: rest) := endsNumber_gap hgap (.cons (by decide))
      rw [writeItems] at hfuel ⊢
      obtain ⟨after, hvalue⟩ := hv.read fuel position _ (by omega) hends
      rw [items, hvalue, Outcome.ok_bind]
      have hclosing : StartsSolid (']' :: rest) := solid_cons rfl
      simp only [Cursor.skipSpaces_append hgap hclosing]
      exact ⟨_, rfl⟩
    | cons w vs =>
      obtain ⟨blanks, hseparator, hblanks⟩ := exists_separator l level
      have htext : writeItems l level (v :: w :: vs) =
          write l level v ++ ',' :: (blanks ++ writeItems l level (w :: vs)) := by
        rw [writeItems_cons_cons, hseparator, List.append_assoc, List.cons_append]
      rw [htext] at hfuel ⊢
      simp only [List.length_append, List.length_cons] at hfuel
      let following := writeItems l level (w :: vs) ++ (gap ++ ']' :: rest)
      have hsolid : StartsSolid following := solid_writeItems (hvs w List.mem_cons_self) _
      have hcomma : StartsSolid (',' :: (blanks ++ following)) := solid_cons rfl
      obtain ⟨after, hvalue⟩ := hv.read fuel position (',' :: (blanks ++ following)) (by omega)
        (.cons (by decide))
      obtain ⟨last, hitems⟩ := ih nofun hvs fuel (after + 1 + blanks.length) (by omega)
      refine ⟨last, ?_⟩
      simp only [List.append_assoc, List.cons_append]
      rw [items, hvalue, Outcome.ok_bind]
      simp only [Cursor.skipSpaces_solid hcomma, Cursor.skip, List.drop_one, List.tail_cons,
        Cursor.skipSpaces_append hblanks hsolid, following, hitems]
      rfl

/-- One entry, whatever comes after its value. -/
theorem members_entry {name : Text} {v : Value} (h : ReadsBack l level v) {fuel : Nat}
    (hfuel : 2 * (write l level v).length ≤ fuel) (position : Nat) {rest : Text}
    (hrest : EndsNumber rest) : ∃ after : Nat,
      members (fuel + 1) ⟨position, stringText name ++ ':' :: ' ' :: (write l level v ++ rest)⟩ =
        match (⟨after, rest⟩ : Cursor).skipSpaces.rest with
        | '\x7d' :: _ => .ok ([(.str name, v)], (⟨after, rest⟩ : Cursor).skipSpaces.skip 1)
        | ',' :: _ => do
          let (more, last) ←
            members fuel ((⟨after, rest⟩ : Cursor).skipSpaces.skip 1).skipSpaces
          pure ((.str name, v) :: more, last)
        | _ => failAt .comma (⟨after, rest⟩ : Cursor).skipSpaces.position := by
  have hcolon : StartsSolid (':' :: ' ' :: (write l level v ++ rest)) := solid_cons rfl
  have hblank : Blank [' '] := List.forall_mem_singleton.mpr rfl
  have hname := string_stringText position name (':' :: ' ' :: (write l level v ++ rest))
  obtain ⟨after, hvalue⟩ :=
    h.read fuel (position + (stringText name).length + 1 + 1) rest hfuel hrest
  have hskip :=
    Cursor.skipSpaces_append hblank (h.solid rest) (position + (stringText name).length + 1)
  refine ⟨after, ?_⟩
  have hquote : stringText name ++ ':' :: ' ' :: (write l level v ++ rest) =
      '"' :: (name.flatMap charText ++ '"' :: ':' :: ' ' :: (write l level v ++ rest)) := by
    simp [stringText]
  rw [members]
  simp only [hquote]
  rw [← hquote, hname, Outcome.ok_bind]
  simp only [Cursor.skipSpaces_solid hcolon, Cursor.skip, List.drop_one, List.tail_cons]
  simp only [List.singleton_append] at hskip
  rw [hskip]
  simp only [List.length_singleton, hvalue]
  rfl

theorem exists_writeEntries_cons (e : Text × Value) (pairs : List (Text × Value)) :
    ∃ more, writeEntries l level (named (e :: pairs)) = '"' :: more := by
  cases pairs with
  | nil => exact ⟨_, rfl⟩
  | cons e' pairs => exact ⟨_, rfl⟩

/-- The entries of a mapping are read up to the closing brace. -/
theorem members_writeEntries {pairs : List (Text × Value)} (hne : pairs ≠ [])
    (hread : ∀ e ∈ pairs, ReadsBack l level e.2) (hgap : Blank gap) (fuel position : Nat)
    (rest : Text) (hfuel : 2 * (writeEntries l level (named pairs)).length < fuel) :
    ∃ after, members fuel
        ⟨position, writeEntries l level (named pairs) ++ (gap ++ '\x7d' :: rest)⟩ =
      .ok (named pairs, ⟨after, rest⟩) := by
  induction pairs generalizing fuel position with
  | nil => exact (hne rfl).elim
  | cons e pairs ih =>
    obtain ⟨fuel, rfl⟩ := Nat.exists_eq_succ_of_ne_zero (Nat.ne_zero_of_lt hfuel)
    obtain ⟨he, hpairs⟩ := List.forall_mem_cons.mp hread
    cases pairs with
    | nil =>
      have hends : EndsNumber (gap ++ '\x7d' :: rest) := endsNumber_gap hgap (.cons (by decide))
      have hclosing : StartsSolid ('\x7d' :: rest) := solid_cons rfl
      have htext : writeEntries l level (named [e]) =
          stringText e.1 ++ ':' :: ' ' :: write l level e.2 := rfl
      rw [htext] at hfuel ⊢
      simp only [List.length_append, List.length_cons] at hfuel
      obtain ⟨after, hentry⟩ := @members_entry l level e.1 e.2 he fuel (by omega) position _ hends
      simp only [List.append_assoc, List.cons_append]
      rw [hentry]
      simp only [Cursor.skipSpaces_append hgap hclosing]
      exact ⟨_, rfl⟩
    | cons e' pairs =>
      obtain ⟨blanks, hseparator, hblanks⟩ := exists_separator l level
      have htext : writeEntries l level (named (e :: e' :: pairs)) =
          stringText e.1 ++ ':' :: ' ' :: (write l level e.2 ++
            ',' :: (blanks ++ writeEntries l level (named (e' :: pairs)))) := by
        rw [writeEntries_cons_cons, hseparator]
        simp only [List.append_assoc, List.cons_append]
      rw [htext] at hfuel ⊢
      simp only [List.length_append, List.length_cons] at hfuel
      let following := writeEntries l level (named (e' :: pairs)) ++ (gap ++ '\x7d' :: rest)
      have hsolid : StartsSolid following := by
        obtain ⟨more, hentries⟩ := @exists_writeEntries_cons l level e' pairs
        simp only [following, hentries]
        exact solid_cons rfl
      have hcomma : StartsSolid (',' :: (blanks ++ following)) := solid_cons rfl
      have hends : EndsNumber (',' :: (blanks ++ following)) := .cons (by decide)
      obtain ⟨after, hentry⟩ := @members_entry l level e.1 e.2 he fuel (by omega) position _ hends
      obtain ⟨last, hmembers⟩ := ih nofun hpairs fuel (after + 1 + blanks.length) (by omega)
      refine ⟨last, ?_⟩
      simp only [List.append_assoc, List.cons_append]
      rw [hentry]
      simp only [Cursor.skipSpaces_solid hcomma, Cursor.skip, List.drop_one, List.tail_cons,
        Cursor.skipSpaces_append hblanks hsolid, following, hmembers]
      rfl

end

/-! Keys that differ are kept as they come. -/

theorem setEntry_named {pairs : List (Text × Value)} {name : Text} (v : Value)
    (h : name ∉ pairs.map (·.1)) :
    Value.setEntry (.str name) v (named pairs) = named (pairs ++ [(name, v)]) := by
  induction pairs with
  | nil => rfl
  | cons e pairs ih =>
    rw [List.map_cons, List.mem_cons, not_or] at h
    have hkey : (Value.str e.1).sameKey (.str name) = false := by
      simpa [Value.sameKey] using Ne.symm h.1
    have hrest := ih h.2
    simp only [named, List.map_cons, List.cons_append] at hrest ⊢
    rw [Value.setEntry, hkey, hrest]
    rfl

theorem entriesOf_named {pairs : List (Text × Value)} (h : (pairs.map (·.1)).Nodup) :
    Value.entriesOf (named pairs) = named pairs := by
  have hfold (before : List (Text × Value)) (hnodup : ((before ++ pairs).map (·.1)).Nodup) :
      (named pairs).foldl (fun entries p => Value.setEntry p.1 p.2 entries) (named before) =
        named (before ++ pairs) := by
    induction pairs generalizing before with
    | nil => simp [named]
    | cons e pairs ih =>
      have hfresh : e.1 ∉ before.map (·.1) := by
        rw [List.map_append, List.map_cons, List.nodup_append] at hnodup
        exact fun hmem => hnodup.2.2 _ hmem _ List.mem_cons_self rfl
      have hrest : named (e :: pairs) = (.str e.1, e.2) :: named pairs := rfl
      rw [List.append_cons] at hnodup ⊢
      rw [hrest, List.foldl_cons, setEntry_named e.2 hfresh]
      exact ih (List.nodup_cons.mp h).2 _ hnodup
  exact hfold [] h

/-! Values and their texts. -/

section
variable {l : Layout} {level : Nat}

/-- A value whose text is read by itself, without a look at fuel. -/
theorem ReadsBack.of_atom {v : Value} {c : Char} {more : Text}
    (hwrite : write l level v = c :: more) (hspace : Cursor.isSpace c = false) (hbracket : c ≠ ']')
    (hread : ∀ fuel position rest, EndsNumber rest →
      ∃ after, value (fuel + 1) ⟨position, write l level v ++ rest⟩ = .ok (v, ⟨after, rest⟩)) :
    ReadsBack l level v := by
  refine ⟨⟨c, more, hwrite, hspace, hbracket⟩, ?_⟩
  intro fuel position rest hfuel hrest
  rw [hwrite, List.length_cons] at hfuel
  obtain ⟨fuel, rfl⟩ := Nat.exists_eq_succ_of_ne_zero (n := fuel) (by omega)
  exact hread fuel position rest hrest

theorem value_bracket {c : Char} (hgap : Blank gap) (hspace : Cursor.isSpace c = false)
    (hbracket : c ≠ ']') (fuel position : Nat) (more : Text) :
    value (fuel + 1) ⟨position, '[' :: (gap ++ c :: more)⟩ =
      (fun r => (.list r.1, r.2)) <$> items fuel ⟨position + 1 + gap.length, c :: more⟩ := by
  have hsolid : StartsSolid (c :: more) := solid_cons hspace
  simp only [value, Cursor.skip, List.drop_one, List.tail_cons,
    Cursor.skipSpaces_append hgap hsolid]
  split
  · next heq => exact (hbracket (List.cons.inj heq).1).elim
  · cases items fuel ⟨position + 1 + gap.length, c :: more⟩ <;> rfl

theorem value_brace {c : Char} (hgap : Blank gap) (hspace : Cursor.isSpace c = false)
    (hbrace : c ≠ '\x7d') (fuel position : Nat) (more : Text) :
    value (fuel + 1) ⟨position, '\x7b' :: (gap ++ c :: more)⟩ =
      (fun r => (.dict (Value.entriesOf r.1), r.2)) <$>
        members fuel ⟨position + 1 + gap.length, c :: more⟩ := by
  have hsolid : StartsSolid (c :: more) := solid_cons hspace
  simp only [value, Cursor.skip, List.drop_one, List.tail_cons,
    Cursor.skipSpaces_append hgap hsolid]
  split
  · next heq => exact (hbrace (List.cons.inj heq).1).elim
  · cases members fuel ⟨position + 1 + gap.length, c :: more⟩ <;> rfl

theorem readsBack_list {items : List Value} (h : ∀ v ∈ items, ReadsBack l (level + 1) v) :
    ReadsBack l level (.list items) := by
  cases items with
  | nil =>
    refine .of_atom rfl rfl (by decide) fun fuel position rest _ => ⟨position + 1 + 1, ?_⟩
    have hclosing : StartsSolid (']' :: rest) := solid_cons rfl
    simp [value, write, Cursor.skip, Cursor.skipSpaces_solid hclosing]
  | cons v vs =>
    have hwrite : write l level (.list (v :: vs)) = '[' :: l.lineBreak (level + 1) ++
        writeItems l (level + 1) (v :: vs) ++ l.lineBreak level ++ [']'] := rfl
    obtain ⟨c, more, hitems, hspace, hbracket⟩ := exists_writeItems_cons vs (h v List.mem_cons_self)
    refine ⟨⟨_, _, hwrite, rfl, by decide⟩, ?_⟩
    intro fuel position rest hfuel hrest
    rw [hwrite] at hfuel ⊢
    simp only [List.length_cons, List.length_append] at hfuel
    obtain ⟨fuel, rfl⟩ := Nat.exists_eq_succ_of_ne_zero (n := fuel) (by omega)
    obtain ⟨after, hread⟩ := items_writeItems (List.cons_ne_nil v vs) h (blank_lineBreak l level)
      fuel (position + 1 + (l.lineBreak (level + 1)).length) rest (by omega)
    have hvalue := value_bracket (blank_lineBreak l (level + 1)) hspace hbracket fuel position
      (more ++ (l.lineBreak level ++ ']' :: rest))
    rw [hitems, List.cons_append] at hread
    rw [hread] at hvalue
    refine ⟨after, ?_⟩
    simpa [hitems] using hvalue

theorem readsBack_dict {pairs : List (Text × Value)} (hnames : (pairs.map (·.1)).Nodup)
    (h : ∀ e ∈ pairs, ReadsBack l (level + 1) e.2) : ReadsBack l level (.dict (named pairs)) := by
  cases pairs with
  | nil =>
    refine .of_atom rfl rfl (by decide) fun fuel position rest _ => ⟨position + 1 + 1, ?_⟩
    have hclosing : StartsSolid ('\x7d' :: rest) := solid_cons rfl
    simp [value, write, named, Cursor.skip, Cursor.skipSpaces_solid hclosing]
  | cons e pairs =>
    have hwrite : write l level (.dict (named (e :: pairs))) = '\x7b' :: l.lineBreak (level + 1) ++
        writeEntries l (level + 1) (named (e :: pairs)) ++ l.lineBreak level ++ ['\x7d'] := rfl
    obtain ⟨more, hentries⟩ := @exists_writeEntries_cons l (level + 1) e pairs
    refine ⟨⟨_, _, hwrite, rfl, by decide⟩, ?_⟩
    intro fuel position rest hfuel hrest
    rw [hwrite] at hfuel ⊢
    simp only [List.length_cons, List.length_append] at hfuel
    obtain ⟨fuel, rfl⟩ := Nat.exists_eq_succ_of_ne_zero (n := fuel) (by omega)
    obtain ⟨after, hread⟩ := members_writeEntries (List.cons_ne_nil e pairs) h
      (blank_lineBreak l level) fuel (position + 1 + (l.lineBreak (level + 1)).length) rest
      (by omega)
    have hvalue := value_brace (blank_lineBreak l (level + 1)) (c := '"') rfl (by decide) fuel
      position (more ++ (l.lineBreak level ++ '\x7d' :: rest))
    rw [hentries, List.cons_append] at hread
    rw [hread] at hvalue
    refine ⟨after, ?_⟩
    simpa [hentries, entriesOf_named hnames] using hvalue

end

/-- A number starts with none of the characters that have another meaning. -/
theorem ne_of_digit {c d : Char} (hc : c = '-' ∨ c.isDigit = true)
    (hd : d ≠ '-' ∧ d.isDigit = false) : c ≠ d := by
  rintro rfl
  rcases hc with hc | hc
  · exact hd.1 hc
  · rw [hd.2] at hc
    cases hc

theorem isSpace_of_digit {c : Char} (hc : c = '-' ∨ c.isDigit = true) :
    Cursor.isSpace c = false := by
  have hne {d : Char} (hd : d ≠ '-' ∧ d.isDigit = false) : c ≠ d := ne_of_digit hc hd
  simp only [Cursor.isSpace, Bool.or_eq_false_iff, beq_eq_false_iff_ne]
  exact ⟨⟨⟨hne (by decide), hne (by decide)⟩, hne (by decide)⟩, hne (by decide)⟩

theorem value_of_digit {c : Char} (hc : c = '-' ∨ c.isDigit = true) (fuel position : Nat)
    (more : Text) : value (fuel + 1) ⟨position, c :: more⟩ = atom ⟨position, c :: more⟩ := by
  have hquote : c ≠ '"' := ne_of_digit hc (by decide)
  have hbracket : c ≠ '[' := ne_of_digit hc (by decide)
  have hbrace : c ≠ '\x7b' := ne_of_digit hc (by decide)
  rw [value]
  split
  · next heq => exact (hquote (List.cons.inj heq).1).elim
  · next heq => exact (hbracket (List.cons.inj heq).1).elim
  · next heq => exact (hbrace (List.cons.inj heq).1).elim
  · rfl

/-- What keeps everything is read as it was. -/
theorem Lossless.readsBack {v : Value} (h : Lossless v) (l : Layout) (level : Nat) :
    ReadsBack l level v := by
  induction h generalizing level with
  | null =>
    refine .of_atom rfl rfl (by decide) fun fuel position rest _ => ⟨position + 4, ?_⟩
    simp [value, write, atom, names, Cursor.skip]
  | bool b =>
    cases b with
    | false =>
      refine .of_atom rfl rfl (by decide) fun fuel position rest _ => ⟨position + 5, ?_⟩
      simp [value, write, atom, names, Cursor.skip]
    | true =>
      refine .of_atom rfl rfl (by decide) fun fuel position rest _ => ⟨position + 4, ?_⟩
      simp [value, write, atom, names, Cursor.skip]
  | @int i limit =>
    obtain ⟨c, more, hwrite, hc⟩ := (Numeral.plain_ofInteger i).laid.exists_text_cons
    rw [Numeral.text_ofInteger] at hwrite
    have hbracket : c ≠ ']' := ne_of_digit hc (by decide)
    refine .of_atom hwrite (isSpace_of_digit hc) hbracket fun fuel position rest hrest => ?_
    have hread := atom_ofInt limit hrest position
    refine ⟨position + (Numeral.ofInt i).length, ?_⟩
    rw [write, hwrite, List.cons_append, value_of_digit hc, ← List.cons_append, ← hwrite, hread]
  | @double d finite =>
    obtain ⟨n, hn, hlaid⟩ := Double.exists_laid_text finite
    obtain ⟨c, more, htext, hc⟩ := hn.exists_text_cons
    rw [hlaid] at htext
    have hwrite : write l level (.double d) = d.text := write_double finite
    have hbracket : c ≠ ']' := ne_of_digit hc (by decide)
    refine .of_atom (hwrite.trans htext) (isSpace_of_digit hc) hbracket
      fun fuel position rest hrest => ⟨position + d.text.length, ?_⟩
    have hread := atom_text_double finite hrest position
    rw [hwrite, htext, List.cons_append, value_of_digit hc, ← List.cons_append, ← htext, hread]
  | str text =>
    refine .of_atom rfl rfl (by decide) fun fuel position rest _ => ?_
    have hread := string_stringText position text rest
    refine ⟨position + (stringText text).length, ?_⟩
    have hvalue : value (fuel + 1) ⟨position, stringText text ++ rest⟩ = (do
        let read ← string ⟨position, stringText text ++ rest⟩
        pure (.str read.1, read.2)) := rfl
    rw [write, hvalue, hread]
    rfl
  | list each ih => exact readsBack_list fun v hv => ih v hv (level + 1)
  | dict names each ih => exact readsBack_dict names fun e he => ih e he (level + 1)

/-- Reading takes back what writing puts down. -/
theorem read_write {v : Value} (h : Lossless v) (l : Layout) : read (write l 0 v) = .ok v := by
  have hback := h.readsBack l 0
  obtain ⟨after, hread⟩ := hback.read (2 * (write l 0 v).length + 1) 0 [] (by omega) .nil
  have hsolid := hback.solid []
  have hempty : StartsSolid [] := nofun
  rw [List.append_nil] at hread hsolid
  have hmark (rest : Text) : write l 0 v ≠ '\ufeff' :: rest := by
    intro hwrite
    have hascii := h.ascii_write l 0 '\ufeff' (hwrite ▸ List.mem_cons_self)
    exact absurd hascii (by decide)
  rw [read]
  · rw [Cursor.skipSpaces_solid hsolid, hread, Outcome.ok_bind]
    simp only [Cursor.skipSpaces_solid hempty]
    rfl
  · exact hmark

end SqlTemplate.Json
