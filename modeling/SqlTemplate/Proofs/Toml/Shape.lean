import Mathlib.Tactic.SplitIfs
import SqlTemplate.Proofs.Value.Shape
import SqlTemplate.Toml.Reader
import SqlTemplate.Value.Entries

/-! The shape of what a key of a TOML document holds. -/
namespace SqlTemplate

namespace Toml

theorem shallow_number {text rest : Text} {v : Value} (h : number text = .ok (v, rest)) :
    Shallow v := by
  rw [number.eq_def] at h
  split at h
  · cases h
    exact .other rfl rfl
  · split_ifs at h <;> cases h <;> exact .other rfl rfl
  · split at h
    · next name w hfound =>
      cases h
      have hall : ∀ entry ∈ named, entry.2.sequence? = none ∧ entry.2.mapping? = none := by
        simp [named, Value.sequence?, Value.mapping?]
      obtain ⟨hsequence, hmapping⟩ := hall _ (List.mem_of_find?_eq_some hfound)
      exact .other hsequence hmapping
    · cases h

theorem shallow_calendar {text rest : Text} {v : Value}
    (h : calendar? text = some (.ok (v, rest))) : Shallow v := by
  rw [calendar?.eq_def] at h
  split at h
  · next date after _ =>
    have hvalue := Option.some.inj h
    split at hvalue
    · next w hw =>
      cases hvalue
      exact shallow_moment hw
    · cases hvalue
  · obtain ⟨⟨time, after⟩, -, hvalue⟩ := Option.map_eq_some_iff.mp h
    cases hvalue
    exact .other rfl rfl

theorem shallow_scalar {text rest : Text} {v : Value} (h : scalar text = .ok (v, rest)) :
    Shallow v := by
  rw [scalar.eq_def] at h
  split at h
  · next r hboolean =>
    cases h
    rw [boolean?] at hboolean
    split_ifs at hboolean <;> cases hboolean <;> exact .other rfl rfl
  · cases hcalendar : calendar? text with
    | none =>
      rw [hcalendar] at h
      exact shallow_number h
    | some r =>
      rw [hcalendar] at h
      exact shallow_calendar (hcalendar.trans (congrArg some h))

theorem shallow_value_items (fuel : Nat) :
    (∀ text v rest, value fuel text = .ok (v, rest) → Shallow v) ∧
      ∀ text vs rest, items fuel text = .ok (vs, rest) → ∀ v ∈ vs, Resolvable v := by
  induction fuel with
  | zero => exact ⟨nofun, nofun⟩
  | succ fuel ih =>
    obtain ⟨hvalue, hitems⟩ := ih
    refine ⟨fun text v rest h => ?_, fun text vs rest h => ?_⟩
    · rw [value.eq_def] at h
      dsimp only at h
      split at h
      · obtain ⟨_, -, hlist⟩ := Outcome.bind_eq_ok_iff.mp h
        obtain ⟨⟨items, _⟩, hread, ⟨⟩⟩ := Outcome.bind_eq_ok_iff.mp hlist
        exact .list (hitems _ _ _ hread)
      · split at h
        · cases h
          exact .dict []
        · obtain ⟨⟨entries, _⟩, -, ⟨⟩⟩ := Outcome.bind_eq_ok_iff.mp h
          exact .dict _
      · split_ifs at h
        · obtain ⟨⟨body, _⟩, -, ⟨⟩⟩ := Outcome.bind_eq_ok_iff.mp h
          exact .str body
        · exact shallow_scalar h
      · cases h
    · rw [items.eq_def] at h
      dsimp only at h
      split at h
      · cases h
        exact nofun
      · obtain ⟨⟨item, after⟩, hread, hrest⟩ := Outcome.bind_eq_ok_iff.mp h
        have hfirst := (hvalue _ _ _ hread).resolvable
        obtain ⟨filled, -, hrest⟩ := Outcome.bind_eq_ok_iff.mp hrest
        split at hrest
        · cases hrest
          exact List.forall_mem_singleton.mpr hfirst
        · obtain ⟨_, -, hlater⟩ := Outcome.bind_eq_ok_iff.mp hrest
          obtain ⟨⟨more, _⟩, hmore, ⟨⟩⟩ := Outcome.bind_eq_ok_iff.mp hlater
          exact List.forall_mem_cons.mpr ⟨hfirst, hitems _ _ _ hmore⟩
        · cases hrest

/-! What the keys of the top table hold. The tables below it matter only as such. -/

/-- A finished value whose items may be arguments, a table, or a list of tables. -/
inductive Item.Sound : Item → Prop
  | value {v : Value} (shallow : Shallow v) : Sound (.value v)
  | table (origin : Origin) (entries : Entries) : Sound (.table origin entries)
  | tables {finished : List Value} (each : ∀ v ∈ finished, Resolvable v) (last : Entries) :
    Sound (.tables finished last)

def Entries.Sound (entries : Entries) : Prop := ∀ e ∈ entries, e.2.Sound

theorem Item.Sound.shallow {item : Item} (h : item.Sound) : Shallow item.toValue := by
  cases h with
  | value shallow => exact shallow
  | table origin entries => exact .dict _
  | tables each last => exact .list (List.forall_mem_append.mpr
      ⟨each, List.forall_mem_singleton.mpr (.dict _)⟩)

/-- A change that keeps what is under the name sound keeps all of the table sound. -/
theorem Entries.Sound.alter {entries out : Entries} {name : Text}
    {f : Option Item → Option Item} (h : entries.Sound)
    (hf : ∀ item, (∀ i ∈ item, i.Sound) → ∀ i ∈ f item, i.Sound)
    (hout : entries.alter name f = some out) : out.Sound := by
  induction entries generalizing out with
  | nil =>
    obtain ⟨item, hitem, rfl⟩ := Option.map_eq_some_iff.mp hout
    exact List.forall_mem_singleton.mpr (hf none nofun item hitem)
  | cons e rest ih =>
    obtain ⟨key, item⟩ := e
    obtain ⟨hfirst, hrest⟩ := List.forall_mem_cons.mp h
    rw [Entries.alter] at hout
    split_ifs at hout
    · obtain ⟨changed, hchanged, rfl⟩ := Option.map_eq_some_iff.mp hout
      refine List.forall_mem_cons.mpr ⟨hf (some item) ?_ changed hchanged, hrest⟩
      rintro _ ⟨⟩
      exact hfirst
    · obtain ⟨more, hmore, rfl⟩ := Option.map_eq_some_iff.mp hout
      exact List.forall_mem_cons.mpr ⟨hfirst, ih hrest hmore⟩

section
variable {entries out : Entries}

theorem Entries.Sound.within {f : Entries → Option Entries} {path : List Text} (h : entries.Sound)
    (hf : ∀ out, f entries = some out → out.Sound) (hout : entries.within f path = some out) :
    out.Sound := by
  cases path with
  | nil => exact hf out hout
  | cons name path =>
    rw [Entries.within] at hout
    refine h.alter ?_ hout
    intro item hitem i hi
    split at hi
    · obtain ⟨inner, -, rfl⟩ := Option.map_eq_some_iff.mp hi
      exact .table _ inner
    · obtain ⟨inner, -, rfl⟩ := Option.map_eq_some_iff.mp hi
      exact .table _ inner
    · next finished last =>
      obtain ⟨inner, -, rfl⟩ := Option.map_eq_some_iff.mp hi
      cases hitem _ rfl with
      | tables each _ => exact .tables each inner
    · cases hi

theorem Entries.Sound.define {name : Text} (h : entries.Sound)
    (hout : entries.define name = some out) : out.Sound := by
  refine h.alter ?_ hout
  intro item _ i hi
  split at hi <;> cases hi
  · exact .table _ _
  · exact .table _ _

theorem Entries.Sound.append {name : Text} (h : entries.Sound)
    (hout : entries.append name = some out) : out.Sound := by
  refine h.alter ?_ hout
  intro item hitem i hi
  split at hi <;> cases hi
  · exact .tables (List.forall_mem_nil _) _
  · cases hitem _ rfl with
    | tables each _ =>
      exact .tables (List.forall_mem_append.mpr
        ⟨each, List.forall_mem_singleton.mpr (.dict _)⟩) _

theorem Entries.Sound.insert {part : Nat} {v : Value} {key : List Text} (h : entries.Sound)
    (hv : Shallow v) (hout : entries.insert part v key = some out) : out.Sound := by
  rw [Entries.insert.eq_def] at hout
  split at hout
  · cases hout
  · refine h.alter ?_ hout
    intro item _ i hi
    split at hi <;> cases hi
    exact .value hv
  · refine h.alter ?_ hout
    intro item _ i hi
    split at hi
    · obtain ⟨inner, -, rfl⟩ := Option.map_eq_some_iff.mp hi
      exact .table _ inner
    · split_ifs at hi
      · obtain ⟨inner, -, rfl⟩ := Option.map_eq_some_iff.mp hi
        exact .table _ inner
      · cases hi
    · cases hi

end

/-! Each statement of a document keeps its top table sound, and so does the whole of them. -/

theorem orInvalid_eq_ok_iff {α : Type} {x : Option α} {a : α} :
    orInvalid x = .ok a ↔ x = some a := by
  cases x <;> simp [orInvalid]

section
variable {d changed : Document} {text rest : Text}

theorem sound_enter {f : Text → Entries → Option Entries} {path : List Text}
    (h : d.root.Sound) (hf : ∀ name out, f name d.root = some out → out.Sound)
    (hchanged : d.enter f path = some changed) : changed.root.Sound := by
  obtain ⟨name, -, hroot⟩ := Option.bind_eq_some_iff.mp hchanged
  obtain ⟨root, hwithin, ⟨⟩⟩ := Option.bind_eq_some_iff.mp hroot
  exact h.within (hf name) hwithin

theorem sound_header {change : List Text → Document → Option Document} {closing : Text}
    (hchange : ∀ path out, change path d = some out → out.root.Sound)
    (h : header change closing d text = .ok (changed, rest)) : changed.root.Sound := by
  obtain ⟨⟨path, _⟩, -, hrest⟩ := Outcome.bind_eq_ok_iff.mp h
  obtain ⟨out, hout, hclosed⟩ := Outcome.bind_eq_ok_iff.mp hrest
  split_ifs at hclosed
  cases hclosed
  exact hchange path _ (orInvalid_eq_ok_iff.mp hout)

theorem sound_statement (h : d.root.Sound) (hread : statement d text = .ok (changed, rest)) :
    changed.root.Sound := by
  rw [statement.eq_def] at hread
  split at hread
  · exact sound_header (fun path out => sound_enter h fun name _ => h.append) hread
  · exact sound_header (fun path out => sound_enter h fun name _ => h.define) hread
  · split_ifs at hread
    · obtain ⟨⟨key, start⟩, -, hrest⟩ := Outcome.bind_eq_ok_iff.mp hread
      obtain ⟨⟨v, after⟩, hvalue, hrest⟩ := Outcome.bind_eq_ok_iff.mp hrest
      obtain ⟨out, hout, ⟨⟩⟩ := Outcome.bind_eq_ok_iff.mp hrest
      have hshallow := (shallow_value_items _).1 _ _ _ hvalue
      obtain ⟨root, hroot, ⟨⟩⟩ := Option.bind_eq_some_iff.mp (orInvalid_eq_ok_iff.mp hout)
      exact h.within (fun _ => h.insert hshallow) hroot
    · cases hread
      exact h
  · cases hread
    exact h

theorem sound_lines {fuel : Nat} (h : d.root.Sound) (hread : lines fuel d text = .ok changed) :
    changed.root.Sound := by
  induction fuel generalizing d text with
  | zero => cases hread
  | succ fuel ih =>
    obtain ⟨⟨next, after⟩, hstatement, hrest⟩ := Outcome.bind_eq_ok_iff.mp hread
    have hnext := sound_statement h hstatement
    obtain ⟨comment, -, hrest⟩ := Outcome.bind_eq_ok_iff.mp hrest
    split at hrest
    · cases hrest
      exact hnext
    · exact ih hnext hrest
    · cases hrest

end

theorem mem_toPairs {entries : Entries} {e : Value × Value} (he : e ∈ toPairs entries) :
    ∃ item, item ∈ entries.map (·.2) ∧ e.2 = item.toValue := by
  induction entries with
  | nil => cases he
  | cons first rest ih =>
    rw [toPairs] at he
    rcases List.mem_cons.mp he with rfl | hmem
    · exact ⟨first.2, List.mem_cons_self, rfl⟩
    · obtain ⟨item, hitem, heq⟩ := ih hmem
      exact ⟨item, List.mem_cons_of_mem _ hitem, heq⟩

theorem shallow_read {text : Text} {entries : List (Value × Value)} {v : Value} {name : Text}
    (h : read text = .ok entries) (hv : Value.lookup? name entries = some v) : Shallow v := by
  obtain ⟨d, hlines, ⟨⟩⟩ := Outcome.bind_eq_ok_iff.mp h
  have hempty : Document.empty.root.Sound := List.forall_mem_nil _
  have hsound := sound_lines hempty hlines
  obtain ⟨e, hfound, rfl⟩ := Option.map_eq_some_iff.mp hv
  obtain ⟨item, hitem, hvalue⟩ := mem_toPairs (List.mem_of_find?_eq_some hfound)
  obtain ⟨entry, hentry, rfl⟩ := List.mem_map.mp hitem
  rw [hvalue]
  exact (hsound entry hentry).shallow

end Toml

end SqlTemplate
