import SqlTemplate.Text.Basic

/-! Texts with a separator between each two of them. They are told apart again if each of them can be
told from what stands behind it. -/
namespace SqlTemplate.Text

/-- A text up to the first place of a character that it does not hold. -/
theorem append_cons_inj {c : Char} {first second u v : Text} (hfirst : c ∉ first)
    (hsecond : c ∉ second) (h : first ++ c :: u = second ++ c :: v) : first = second ∧ u = v := by
  induction first generalizing second with
  | nil =>
    cases second with
    | nil => exact ⟨rfl, (List.cons.inj h).2⟩
    | cons d second => exact (hsecond ((List.cons.inj h).1 ▸ List.mem_cons_self)).elim
  | cons d first ih =>
    cases second with
    | nil => exact (hfirst ((List.cons.inj h).1 ▸ List.mem_cons_self)).elim
    | cons e second =>
      obtain ⟨rfl, hrest⟩ := List.cons.inj h
      obtain ⟨rfl, rfl⟩ := ih (fun hmem => hfirst (List.mem_cons_of_mem _ hmem))
        (fun hmem => hsecond (List.mem_cons_of_mem _ hmem)) hrest
      exact ⟨rfl, rfl⟩

theorem join_cons (separator piece : Text) (pieces : List Text) :
    join separator (piece :: pieces) = piece ++ pieces.flatMap (separator ++ ·) := by
  induction pieces generalizing piece with
  | nil => simp
  | cons next pieces ih =>
    have hstep : join separator (piece :: next :: pieces) =
        piece ++ separator ++ join separator (next :: pieces) := by
      simp [join, List.intercalate]
    rw [hstep, ih, List.flatMap_cons, List.append_assoc, List.append_assoc]

theorem mem_join {separator : Text} {pieces : List Text} {c : Char}
    (h : c ∈ join separator pieces) : c ∈ separator ∨ ∃ piece ∈ pieces, c ∈ piece := by
  cases pieces with
  | nil => simp at h
  | cons piece pieces =>
    rw [join_cons, List.mem_append, List.mem_flatMap] at h
    rcases h with hpiece | ⟨found, hfound, hc⟩
    · exact .inr ⟨piece, List.mem_cons_self, hpiece⟩
    · refine (List.mem_append.mp hc).imp_right fun hc => ?_
      exact ⟨found, List.mem_cons_of_mem _ hfound, hc⟩

theorem mem_join_of_mem {separator piece : Text} {pieces : List Text} {c : Char}
    (hpiece : piece ∈ pieces) (h : c ∈ piece) : c ∈ join separator pieces := by
  cases pieces with
  | nil => cases hpiece
  | cons first pieces =>
    rw [join_cons, List.mem_append, List.mem_flatMap]
    rcases List.mem_cons.mp hpiece with rfl | hpiece
    · exact .inl h
    · exact .inr ⟨piece, hpiece, List.mem_append_right _ h⟩

/-- What stands behind a piece: nothing, or a separator. -/
def EndsPiece (separator rest : Text) : Prop := rest = [] ∨ separator <+: rest

theorem endsPiece_flatMap {α : Type} (separator : Text) (code : α → Text) (xs : List α) :
    EndsPiece separator (xs.flatMap fun x => separator ++ code x) := by
  cases xs with
  | nil => exact .inl rfl
  | cons x xs =>
    rw [List.flatMap_cons, List.append_assoc]
    exact .inr (List.prefix_append _ _)

/-- Things that are written so that the text of one shows which it is and where it ends. -/
structure Separable {α : Type} (separator : Text) (code : α → Text) (Good : α → Prop) : Prop where
  ne_nil : ∀ x, Good x → code x ≠ []
  cut : ∀ {x y u v}, Good x → Good y → EndsPiece separator u → EndsPiece separator v →
    code x ++ u = code y ++ v → x = y

section
variable {α : Type} {separator : Text} {code : α → Text} {Good : α → Prop}

theorem Separable.flatMap_inj (h : Separable separator code Good) (hseparator : separator ≠ [])
    {xs ys : List α} (hxs : ∀ x ∈ xs, Good x) (hys : ∀ y ∈ ys, Good y)
    (heq : (xs.flatMap fun x => separator ++ code x) = ys.flatMap fun y => separator ++ code y) :
    xs = ys := by
  induction xs generalizing ys with
  | nil =>
    cases ys with
    | nil => rfl
    | cons y ys => simp [hseparator] at heq
  | cons x xs ih =>
    cases ys with
    | nil => simp [hseparator] at heq
    | cons y ys =>
      obtain ⟨hx, hmore⟩ := List.forall_mem_cons.mp hxs
      obtain ⟨hy, hrest⟩ := List.forall_mem_cons.mp hys
      rw [List.flatMap_cons, List.flatMap_cons, List.append_assoc, List.append_assoc,
        List.append_cancel_left_eq] at heq
      obtain rfl := h.cut hx hy (endsPiece_flatMap _ _ _) (endsPiece_flatMap _ _ _) heq
      rw [ih hmore hrest (List.append_cancel_left heq)]

/-- From the whole text each of the pieces is known. -/
theorem Separable.join_inj (h : Separable separator code Good) (hseparator : separator ≠ [])
    {xs ys : List α} (hxs : ∀ x ∈ xs, Good x) (hys : ∀ y ∈ ys, Good y)
    (heq : join separator (xs.map code) = join separator (ys.map code)) : xs = ys := by
  have hfirst {z : α} {zs : List α} (hz : Good z) :
      join separator ((z :: zs).map code) ≠ [] := by
    rw [List.map_cons, join_cons]
    exact List.append_ne_nil_of_left_ne_nil (h.ne_nil z hz) _
  -- The first piece has no separator in front of it, so it is cut off before the others.
  cases xs with
  | nil =>
    cases ys with
    | nil => rfl
    | cons y ys => exact (hfirst (hys y List.mem_cons_self) heq.symm).elim
  | cons x xs =>
    cases ys with
    | nil => exact (hfirst (hxs x List.mem_cons_self) heq).elim
    | cons y ys =>
      obtain ⟨hx, hmore⟩ := List.forall_mem_cons.mp hxs
      obtain ⟨hy, hrest⟩ := List.forall_mem_cons.mp hys
      rw [List.map_cons, List.map_cons, join_cons, join_cons, List.flatMap_map,
        List.flatMap_map] at heq
      obtain rfl := h.cut hx hy (endsPiece_flatMap _ _ _) (endsPiece_flatMap _ _ _) heq
      rw [h.flatMap_inj hseparator hmore hrest (List.append_cancel_left heq)]

end

end SqlTemplate.Text
