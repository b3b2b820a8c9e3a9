import Mathlib.Tactic.SplitIfs
import SqlTemplate.File.Tree

/-! What a path leads to before and after a file is written. -/
namespace SqlTemplate

/-- The place of the file that is or could be there. -/
def Target.place? : Target → Option (List Text)
  | .file place _ | .free place => some place
  | .directory | .missing | .notDirectory => none

namespace FileTree

section
variable {t : FileTree} {place : List Text}

theorem at?_set_other {other : List Text} (h : other ≠ place) (entry : Entry) :
    (t.set place entry).at? other = t.at? other := by
  have hfilter : (t.entries.filter (·.1 != place)).find? (·.1 == other) =
      t.entries.find? (·.1 == other) := by
    rw [List.find?_filter]
    congr 1
    funext e
    by_cases he : e.1 = other <;> simp [he, h]
  simp only [at?, set, List.find?_cons, beq_eq_false_iff_ne.mpr h.symm, hfilter]

@[simp] theorem set_set (a b : Entry) : (t.set place a).set place b = t.set place b := by
  simp [set]

@[simp] theorem current_set (entry : Entry) : (t.set place entry).current = t.current := rfl

theorem follow_cons (start : List Text) (part : Text) (rest : List Text) :
    t.follow start (part :: rest) =
      if part = ['.', '.'] then t.follow start.dropLast rest
      else match t.at? (start ++ [part]), rest with
        | some .directory, rest => t.follow (start ++ [part]) rest
        | some (.file content), [] => .file (start ++ [part]) content
        | some (.file _), _ :: _ => .notDirectory
        | none, [] => .free (start ++ [part])
        | none, _ :: _ => .missing :=
  (follow.eq_def t start (part :: rest)).trans rfl

theorem follow_up (start : List Text) (rest : List Text) :
    t.follow start (['.', '.'] :: rest) = t.follow start.dropLast rest := by
  rw [follow_cons, if_pos rfl]

section
variable {start rest : List Text} {part : Text} (hname : part ≠ ['.', '.'])
include hname

theorem follow_directory (h : t.at? (start ++ [part]) = some .directory) :
    t.follow start (part :: rest) = t.follow (start ++ [part]) rest := by
  simp only [follow_cons, if_neg hname, h]

theorem follow_file {content : List UInt8} (h : t.at? (start ++ [part]) = some (.file content)) :
    t.follow start [part] = .file (start ++ [part]) content := by
  simp only [follow_cons, if_neg hname, h]

end

/-- What is found at the end of a path is what is at its place. -/
theorem at?_of_follow {start parts : List Text}
    (h : (t.follow start parts).place? = some place) :
    place ≠ [] ∧ ((∃ content, t.follow start parts = .file place content ∧
      t.at? place = some (.file content)) ∨
        t.follow start parts = .free place ∧ t.at? place = none) := by
  fun_induction follow t start parts with
  | case1 => cases h
  | case2 start rest ih => exact ih h
  | case3 start part hname next rest hnext ih => exact ih h
  | case4 start part hname next content hnext =>
    obtain rfl : next = place := Option.some.inj h
    exact ⟨by simp [next], .inl ⟨content, rfl, hnext⟩⟩
  | case5 => cases h
  | case6 start part hname next hnext =>
    obtain rfl : next = place := Option.some.inj h
    exact ⟨by simp [next], .inr ⟨rfl, hnext⟩⟩
  | case7 => cases h

/-- A path that leads to a place leads there still when a file has been put at it. -/
theorem follow_set {start parts : List Text} (content : List UInt8)
    (h : (t.follow start parts).place? = some place) :
    (t.set place (.file content)).follow start parts = .file place content := by
  have hroot := (at?_of_follow h).1
  fun_induction follow t start parts with
  | case1 => cases h
  | case2 start rest ih =>
    rw [follow_up]
    exact ih h
  | case3 start part hname next rest hnext ih =>
    have hother : next ≠ place := by
      rintro heq
      obtain ⟨-, ⟨_, -, hfile⟩ | ⟨-, hfree⟩⟩ := at?_of_follow h
      · cases hnext.symm.trans (heq ▸ hfile)
      · cases hnext.symm.trans (heq ▸ hfree)
    rw [follow_directory hname ((at?_set_other hother _).trans hnext)]
    exact ih h
  | case4 start part hname next _ hnext =>
    obtain rfl : next = place := Option.some.inj h
    exact follow_file hname (at?_set t hroot _)
  | case5 => cases h
  | case6 start part hname next hnext =>
    obtain rfl : next = place := Option.some.inj h
    exact follow_file hname (at?_set t hroot _)
  | case7 => cases h

variable {p : Path} {content : List UInt8} {written : FileTree}

theorem write_eq_ok_iff : t.write p content = .ok written ↔
    ∃ place, (t.target p).place? = some place ∧ written = t.set place (.file content) := by
  rw [write]
  cases t.target p <;> simp [Target.place?, eq_comm]

theorem read_of_write (h : t.write p content = .ok written) : written.read p = .ok content := by
  obtain ⟨place, hplace, rfl⟩ := write_eq_ok_iff.mp h
  have htarget : (t.set place (.file content)).target p = .file place content :=
    follow_set content hplace
  rw [read, htarget]

/-- A file that is written twice is as if it were written the second time only. -/
theorem write_write (h : t.write p content = .ok written) (again : List UInt8) :
    written.write p again = t.write p again := by
  obtain ⟨place, hplace, rfl⟩ := write_eq_ok_iff.mp h
  have htarget : (t.set place (.file content)).target p = .file place content :=
    follow_set content hplace
  rw [write_eq_ok_iff.mpr ⟨place, hplace, rfl⟩, write, htarget]
  simp only [set_set]

/-- Whether a file can be written does not depend on what is written. -/
theorem exists_write_ok_iff (again : List UInt8) :
    (∃ written, t.write p content = .ok written) ↔ ∃ written, t.write p again = .ok written := by
  rw [write, write]
  cases t.target p <;> simp

/-- Nothing else is different after a file is written. -/
theorem at?_of_write (h : t.write p content = .ok written) {other : List Text}
    (hother : (t.target p).place? ≠ some other) : written.at? other = t.at? other := by
  obtain ⟨place, hplace, rfl⟩ := write_eq_ok_iff.mp h
  refine at?_set_other ?_ _
  rintro rfl
  exact hother hplace

/-- Two trees differ at most in what the file at one place holds. -/
structure SameBut (place : List Text) (t₁ t₂ : FileTree) : Prop where
  current : t₂.current = t₁.current
  file₁ : ∃ content, t₁.at? place = some (.file content)
  file₂ : ∃ content, t₂.at? place = some (.file content)
  elsewhere : ∀ other ≠ place, t₂.at? other = t₁.at? other

theorem sameBut_set (hroot : place ≠ []) (a b : List UInt8) :
    SameBut place (t.set place (.file a)) (t.set place (.file b)) where
  current := rfl
  file₁ := ⟨a, at?_set t hroot _⟩
  file₂ := ⟨b, at?_set t hroot _⟩
  elsewhere other hother := by rw [at?_set_other hother, at?_set_other hother]

variable {t₁ t₂ : FileTree}

theorem SameBut.at?_eq (hsame : SameBut place t₁ t₂) (other : List Text)
    (h : ∀ content, t₁.at? other ≠ some (.file content)) : t₂.at? other = t₁.at? other := by
  refine hsame.elsewhere other ?_
  rintro rfl
  obtain ⟨content, hfile⟩ := hsame.file₁
  exact h content hfile

/-- A path that leads elsewhere leads to the same in both trees. -/
theorem SameBut.follow_eq (hsame : SameBut place t₁ t₂) {start parts : List Text}
    (h : (t₁.follow start parts).place? ≠ some place) :
    t₂.follow start parts = t₁.follow start parts := by
  fun_induction follow t₁ start parts with
  | case1 => rfl
  | case2 start rest ih =>
    rw [follow_up]
    exact ih h
  | case3 start part hname next rest hnext ih =>
    have hagain := hsame.at?_eq next (by simp [hnext])
    rw [follow_directory hname (hagain.trans hnext)]
    exact ih h
  | case4 start part hname next content hnext =>
    have hother : next ≠ place := fun heq => h (congrArg some heq)
    exact follow_file hname ((hsame.elsewhere next hother).trans hnext)
  | case5 start part hname next content head tail hnext =>
    -- The file in the way may be the one that is not the same.
    obtain ⟨other, hother⟩ : ∃ other, t₂.at? next = some (.file other) := by
      by_cases heq : next = place
      · exact heq ▸ hsame.file₂
      · exact ⟨content, (hsame.elsewhere next heq).trans hnext⟩
    simp only [follow_cons, if_neg hname, next, hother]
  | case6 start part hname next hnext =>
    have hagain := hsame.at?_eq next (by simp [hnext])
    simp only [follow_cons, if_neg hname, next, hagain.trans hnext]
  | case7 start part hname next head tail hnext =>
    have hagain := hsame.at?_eq next (by simp [hnext])
    simp only [follow_cons, if_neg hname, next, hagain.trans hnext]

theorem SameBut.target_eq (hsame : SameBut place t₁ t₂) {p : Path}
    (h : (t₁.target p).place? ≠ some place) : t₂.target p = t₁.target p := by
  rw [target] at h ⊢
  rw [hsame.current]
  exact hsame.follow_eq h

/-- Only the file that is put somewhere can be a change. -/
theorem changesFrom_set (t : FileTree) (place : List Text) (content : List UInt8) :
    (t.set place (.file content)).changesFrom t =
      if (place, .file content) ∈ t.entries then [] else [(place, content)] := by
  have hrest : ({ t with entries := t.entries.filter (·.1 != place) } : FileTree).changesFrom t =
      [] := by
    refine List.filterMap_eq_nil_iff.mpr ?_
    rintro ⟨other, entry⟩ hmem
    have hold := (List.mem_filter.mp hmem).1
    cases entry <;> simp [hold]
  rw [changesFrom] at hrest
  rw [changesFrom, set]
  dsimp only
  split_ifs with hold
  · rw [List.filterMap_cons_none (by simp [hold])]
    exact hrest
  · rw [List.filterMap_cons_some (b := (place, content)) (by simp [hold])]
    exact congrArg _ hrest

/-- What is written elsewhere is the same change whatever a file holds. -/
theorem changesFrom_set_set {t : FileTree} {place other : List Text} (h : other ≠ place)
    (a content : List UInt8) :
    ((t.set place (.file a)).set other (.file content)).changesFrom (t.set place (.file a)) =
      if (other, .file content) ∈ t.entries then [] else [(other, content)] := by
  have hentry : (other, .file content) ∈ (t.set place (.file a)).entries ↔
      (other, .file content) ∈ t.entries := by simp [set, h]
  simp only [changesFrom_set, hentry]

theorem changesFrom_write_eq {t : FileTree} {place : List Text} {a : List UInt8} (b : List UInt8)
    (hroot : place ≠ []) {p : Path} (content : List UInt8)
    (h : ((t.set place (.file a)).target p).place? ≠ some place) :
    (·.changesFrom (t.set place (.file b))) <$> (t.set place (.file b)).write p content =
      (·.changesFrom (t.set place (.file a))) <$> (t.set place (.file a)).write p content := by
  have hset (other : List Text) (hother : some other ≠ some place) :
      ((t.set place (.file b)).set other (.file content)).changesFrom (t.set place (.file b)) =
        ((t.set place (.file a)).set other (.file content)).changesFrom
          (t.set place (.file a)) := by
    have hne : other ≠ place := fun heq => hother (congrArg some heq)
    rw [changesFrom_set_set hne, changesFrom_set_set hne]
  rw [write, write, (sameBut_set hroot a b).target_eq h]
  cases hfound : (t.set place (.file a)).target p with
  | file other old =>
    rw [hfound] at h
    exact congrArg Except.ok (hset other h)
  | free other =>
    rw [hfound] at h
    exact congrArg Except.ok (hset other h)
  | directory => rfl
  | missing => rfl
  | notDirectory => rfl

end
end FileTree
end SqlTemplate
