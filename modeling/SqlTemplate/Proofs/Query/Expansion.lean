import SqlTemplate.Proofs.Query.Pass
import SqlTemplate.Proofs.Template.Faults

/-! An array placeholder with a list is the same as a plain placeholder for each item, with
separators between them. -/
namespace SqlTemplate

/-- As many plain placeholders, with separators between them. -/
def plainList (n : Nat) : Text := Text.join separator (List.replicate n ['?'])

theorem plainList_succ_succ (n : Nat) :
    plainList (n + 2) = '?' :: ',' :: ' ' :: plainList (n + 1) := by
  simp [plainList, Text.join, List.replicate_succ, separator]

theorem ofText_plainList_succ_succ (n : Nat) :
    Token.ofText (plainList (n + 2)) =
      .placeholder .plain :: .char ',' :: .char ' ' :: Token.ofText (plainList (n + 1)) := by
  rw [plainList_succ_succ]
  rfl

theorem mem_of_mem_plainList {n : Nat} {c : Char} (h : c ∈ plainList n) :
    c ∈ ['?', ',', ' '] := by
  induction n with
  | zero => simp [plainList] at h
  | succ n ih =>
    cases n with
    | zero =>
      obtain rfl : c = '?' := by simpa [plainList] using h
      exact List.mem_cons_self
    | succ n =>
      rw [plainList_succ_succ] at h
      simp only [List.mem_cons] at h ih ⊢
      tauto

theorem count_plainList (n : Nat) : (plainList n).count '?' = n := by
  induction n with
  | zero => rfl
  | succ n ih =>
    cases n with
    | zero => rfl
    | succ n => simp [plainList_succ_succ, ih]

theorem ofText_append_array_append (pre post : Text) :
    Token.ofText (pre ++ ['?', 'a'] ++ post) =
      Token.ofText pre ++ ([.placeholder .array] ++ Token.ofText post) := by
  have harray : Text.OpensPlain (['?', 'a'] ++ post) := Text.opensPlain_cons.mpr rfl
  rw [List.append_assoc, Token.ofText_append fun _ => harray]
  rfl

/-- The scan of a text with a plain list in it gives the tokens of the three parts. -/
theorem ofText_append_plainList_append (pre : Text) (n : Nat) {post : Text}
    (hpost : post.OpensPlain) :
    Token.ofText (pre ++ plainList n ++ post) =
      Token.ofText pre ++ (Token.ofText (plainList n) ++ Token.ofText post) := by
  have hinner : (plainList n ++ post).OpensPlain := by
    match n with
    | 0 => exact hpost
    | 1 => exact Text.opensPlain_cons.mpr rfl
    | n + 2 =>
      rw [plainList_succ_succ]
      exact Text.opensPlain_cons.mpr rfl
  rw [List.append_assoc, Token.ofText_append fun _ => hinner, Token.ofText_append fun _ => hpost]

theorem mapError_mapM {α β ε δ : Type} (g : ε → δ) (f : α → Except ε β) (xs : List α) :
    (xs.mapM f).mapError g = xs.mapM fun x => (f x).mapError g := by
  induction xs with
  | nil => rfl
  | cons x xs ih =>
    rw [List.mapM_cons, List.mapM_cons, ← ih]
    cases f x with
    | error e => rfl
    | ok y => cases xs.mapM f <;> rfl

/-- The text of a list for an array placeholder is that of its items, or the first refusal. -/
theorem argumentText_array (xs : List Value) :
    argumentText .array (.list xs) =
      Text.join separator <$> xs.mapM (argumentText .plain) := by
  have hitems : xs.mapM (argumentText .plain) =
      (xs.mapM (quoteScalar dataQuote)).mapError BindError.format := (mapError_mapM _ _ xs).symm
  rw [hitems]
  change (Text.join separator <$> xs.mapM (quoteScalar dataQuote)).mapError BindError.format = _
  cases xs.mapM (quoteScalar dataQuote) <;> rfl

theorem needsSkip_list {xs : List Value} (h : ∀ x ∈ xs, x.needsSkip = false) :
    (Value.list xs).needsSkip = false := by
  have hskip : ∀ x ∈ xs, x.isSkip = false := by
    intro x hx
    have hneeds := h x hx
    rw [Value.needsSkip, Bool.or_eq_false_iff] at hneeds
    exact hneeds.1
  simpa [Value.needsSkip, Value.isSkip, Value.mapping?, Value.sequence?] using hskip

namespace Pass

theorem take_withLeft_cons {s : Specifier} {p : Pass} {arg : Value} (left : List Value)
    (hplace : p.place ≠ .dropped) (hskip : arg.needsSkip = false) :
    (p.withLeft (arg :: left)).take s =
      (fun text => (p.put text).withLeft left) <$> argumentText s arg := by
  obtain ⟨place, written, _⟩ := p
  match place with
  | .outside => rfl
  | .kept inner =>
    rw [withLeft, take, if_neg (by simp [hskip])]
    rfl
  | .dropped => exact (hplace rfl).elim

theorem place_put_ne_dropped {p : Pass} (h : p.place ≠ .dropped) (text : Text) :
    (p.put text).place ≠ .dropped := by
  obtain ⟨place, written, left⟩ := p
  cases place <;> simp_all [put]

/-- Where arguments are written, the placeholders of a plain list write theirs one by one. -/
theorem run_plainList {xs : List Value} (hxs : ∀ x ∈ xs, x.needsSkip = false) {p : Pass}
    (hplace : p.place ≠ .dropped) (left : List Value) :
    (p.withLeft (xs ++ left)).run (Token.ofText (plainList xs.length)) =
      (fun texts => (p.put (Text.join separator texts)).withLeft left) <$>
        xs.mapM (argumentText .plain) := by
  induction xs generalizing p with
  | nil =>
    rw [List.mapM_nil, map_pure, Text.join_nil, put_nil]
    rfl
  | cons x xs ih =>
    obtain ⟨hx, hxs⟩ := List.forall_mem_cons.mp hxs
    -- A separator follows the item only if there is another one.
    cases xs with
    | nil =>
      change (p.withLeft (x :: left)).take .plain >>= _ = _
      rw [take_withLeft_cons left hplace hx, List.mapM_cons, List.mapM_nil]
      simp only [map_eq_bind_pure_comp, bind_assoc, Function.comp_def, pure_bind,
        Text.join_singleton]
      rfl
    | cons y ys =>
      rw [List.length_cons, List.length_cons, ofText_plainList_succ_succ]
      change (p.withLeft (x :: (y :: ys ++ left))).take .plain >>= _ = _
      rw [take_withLeft_cons _ hplace hx, List.mapM_cons]
      simp only [map_eq_bind_pure_comp, bind_assoc, Function.comp_def, pure_bind]
      refine bind_congr fun text => ?_
      have hnext := place_put_ne_dropped (place_put_ne_dropped (place_put_ne_dropped hplace text)
        [',']) [' ']
      simp only [run, step, Outcome.ok_bind, put_withLeft]
      rw [← List.length_cons, ih hxs hnext, List.mapM_cons]
      simp only [map_eq_bind_pure_comp, bind_assoc, Function.comp_def, pure_bind, put_put]
      refine bind_congr fun next => bind_congr fun texts => ?_
      simp [Text.join, separator]

/-- In a dropped block the placeholders of a plain list pass over as many arguments. -/
theorem run_plainList_dropped (xs left : List Value) (written : Text) :
    run ⟨.dropped, written, xs ++ left⟩ (Token.ofText (plainList xs.length)) =
      .ok ⟨.dropped, written, left⟩ := by
  induction xs with
  | nil => rfl
  | cons x xs ih =>
    cases xs with
    | nil => rfl
    | cons y ys =>
      rw [List.length_cons, List.length_cons, ofText_plainList_succ_succ]
      exact ih

/-- Wherever a pass stands, an array placeholder with a list takes it as far as plain placeholders
with the items. -/
theorem run_array_eq_run_plainList {xs : List Value} (hxs : ∀ x ∈ xs, x.needsSkip = false)
    (p : Pass) (left : List Value) :
    (p.withLeft (.list xs :: left)).run [.placeholder .array] =
      (p.withLeft (xs ++ left)).run (Token.ofText (plainList xs.length)) := by
  change (p.withLeft (.list xs :: left)).take .array >>= Except.ok = _
  obtain ⟨place, written, old⟩ := p
  by_cases hplace : place = .dropped
  · subst hplace
    exact (run_plainList_dropped xs left written).symm
  · rw [run_plainList hxs hplace, take_withLeft_cons left hplace (needsSkip_list hxs),
      argumentText_array, Functor.map_map]
    cases xs.mapM (argumentText .plain) <;> rfl

/-- The same in the middle of a pass, with arguments and tokens before and after. -/
theorem run_array_in_middle {ts us : List Token} {a b xs : List Value}
    (ha : a.length = ts.countP Token.isPlaceholder) (hxs : ∀ x ∈ xs, x.needsSkip = false) :
    run ⟨.outside, [], a ++ [Value.list xs] ++ b⟩ (ts ++ ([Token.placeholder .array] ++ us)) =
      run ⟨.outside, [], a ++ xs ++ b⟩ (ts ++ (Token.ofText (plainList xs.length) ++ us)) := by
  simp only [run_append, List.append_assoc, run_args_append ha]
  cases run ⟨.outside, [], a⟩ ts with
  | error e => rfl
  | ok p =>
    rw [Except.map_ok, Except.map_ok, Outcome.ok_bind, Outcome.ok_bind, List.singleton_append,
      run_array_eq_run_plainList hxs]

end Pass

/-- A plain list may stand where an array placeholder stands. -/
theorem exists_parse_plainList {pre post : Text} (n : Nat)
    (h : ∃ p, parse (pre ++ ['?', 'a'] ++ post) = .ok p) :
    ∃ q, parse (pre ++ plainList n ++ post) = .ok q := by
  have hplain : ∀ c ∈ plainList n, c ≠ '{' ∧ c ≠ '}' := by
    intro c hc
    have hmem := mem_of_mem_plainList hc
    constructor <;> rintro rfl <;> simp at hmem
  rw [exists_parse_ok_iff_of_plain hplain]
  exact (exists_parse_ok_iff_of_plain (by simp)).mp h

/-- In consuming mode an array placeholder with a list comes to the same query, or to the same
error, as a plain placeholder for each item, in a block or outside. -/
theorem buildQuery_array_eq_plains {pre post : Text} {p : ParsedTemplate} {a b xs : List Value}
    (hparse : parse (pre ++ ['?', 'a'] ++ post) = .ok p)
    (hpost : ∀ c ∈ post.head?, c ∉ ['d', 'f', 'a', '#'])
    (ha : a.length = pre.count '?') (hb : b.length = post.count '?')
    (hxs : ∀ x ∈ xs, x.needsSkip = false) :
    buildQuery .consume (pre ++ ['?', 'a'] ++ post) (.list (a ++ [.list xs] ++ b)) =
      buildQuery .consume
        (pre ++ Text.join separator (List.replicate xs.length ['?']) ++ post)
        (.list (a ++ xs ++ b)) := by
  change _ = buildQuery .consume (pre ++ plainList xs.length ++ post) _
  have hplain : post.OpensPlain := fun c hc => Specifier.ofLetter?_eq_none_iff.mpr (hpost c hc)
  obtain ⟨q, hq⟩ := exists_parse_plainList xs.length ⟨p, hparse⟩
  have hcountP := placeholderCount_of_parse hparse
  have hcountQ := placeholderCount_of_parse hq
  rw [Token.countP_isPlaceholder_ofText] at hcountP hcountQ
  simp only [List.count_append, count_plainList] at hcountP hcountQ
  have harray : ['?', 'a'].count '?' = 1 := rfl
  rw [buildQuery_eq_pass hparse (by simp; omega), buildQuery_eq_pass hq (by simp; omega),
    ofText_append_array_append, ofText_append_plainList_append pre xs.length hplain,
    Pass.run_array_in_middle (by rw [Token.countP_isPlaceholder_ofText, ha]) hxs]

/-- In the middle of a block that is dropped by its last argument. The block passes over four
arguments in one template and over three in the other, and what follows reads its own in both. -/
theorem buildQuery_array_eq_plains_dropped :
    buildQuery .consume (['{', '?'] ++ ['?', 'a'] ++ ['?', '}', '?'])
        (.list ([.bool true] ++ [.list [.null, .str ['x']]] ++ [.skip, .bool false])) =
      buildQuery .consume
        (['{', '?'] ++ Text.join separator (List.replicate 2 ['?']) ++ ['?', '}', '?'])
        (.list ([.bool true] ++ [.null, .str ['x']] ++ [.skip, .bool false])) ∧
    buildQuery .consume (['{', '?'] ++ ['?', 'a'] ++ ['?', '}', '?'])
        (.list ([.bool true] ++ [.list [.null, .str ['x']]] ++ [.skip, .bool false])) =
      .ok ['0'] := by
  have hparse : parse (['{', '?'] ++ ['?', 'a'] ++ ['?', '}', '?']) = .ok
      ⟨[.block [.placeholder .plain, .placeholder .array, .placeholder .plain],
        .fragment (.placeholder .plain)], 4⟩ := rfl
  have hxs : ∀ x ∈ [Value.null, .str ['x']], x.needsSkip = false := by
    simp [Value.needsSkip, Value.isSkip, Value.mapping?, Value.sequence?]
  exact ⟨buildQuery_array_eq_plains hparse (by simp) rfl rfl hxs, rfl⟩

end SqlTemplate
