import SqlTemplate.Text.Pattern

/-! The way that a matcher finds. Going back is of no use to it where every later way gives a
character back that the next part cannot begin with, or where the next part always matches. -/
namespace SqlTemplate.Text.Pattern

/-- A character of the set stands at the front. -/
def StartsIn (set : CharClass) (text : Text) : Prop := ∃ c ∈ text.head?, set.has c = true

/-- Every way but the first leaves a text that a character of the set starts. -/
def Greedy (set : CharClass) (pattern : Pattern) : Prop :=
  ∀ text way later, pattern.ways text = way :: later → ∀ other ∈ later, StartsIn set other.rest

/-- No text matches that a character of the set starts. -/
def FailsOn (set : CharClass) (pattern : Pattern) : Prop :=
  ∀ text, StartsIn set text → pattern.ways text = []

/-- Every text matches. -/
def Total (pattern : Pattern) : Prop := ∀ text, pattern.ways text ≠ []

section
variable {p q : Pattern} {set other : CharClass} {text : Text}

theorem first?_eq_none_iff : p.first? text = none ↔ p.ways text = [] := List.head?_eq_none_iff

theorem failsOn_of_first? (h : ∀ text, StartsIn set text → p.first? text = none) : FailsOn set p :=
  fun text hstart => first?_eq_none_iff.mp (h text hstart)

/-! Alternatives and options are tried in turn. -/

theorem first?_either : (either p q).first? text = (p.first? text).or (q.first? text) := by
  simp only [first?_eq, ways_either, List.head?_append]

theorem first?_maybe : (maybe p).first? text = some ((p.first? text).getD ⟨[], text⟩) := by
  rw [first?_eq, ways_maybe, List.head?_append, ← first?_eq]
  cases p.first? text <;> rfl

theorem first?_one_cons {c : Char} {rest : Text} :
    (one set).first? (c :: rest) = if set.has c then some ⟨[c], rest⟩ else none := by
  rw [first?_eq, ways_one_cons]
  split <;> rfl

theorem total_maybe (p : Pattern) : Total (maybe p) := by
  intro text
  simp

/-! A repetition takes all there are, and what it gives back is one of them. -/

theorem runs_eq (set : CharClass) (text : Text) :
    ∃ later, runs set text = ⟨text.takeWhile set.has, text.dropWhile set.has⟩ :: later ∧
      ∀ way ∈ later, StartsIn set way.rest := by
  induction text with
  | nil => exact ⟨[], rfl, nofun⟩
  | cons c rest ih =>
    by_cases hc : set.has c = true
    · obtain ⟨later, hruns, hlater⟩ := ih
      refine ⟨later.map (Way.andThen ⟨[c], rest⟩) ++ [⟨[], c :: rest⟩], ?_, ?_⟩
      · simp [runs_cons, hc, hruns]
      · intro way hway
        rcases List.mem_append.mp hway with hlonger | hnone
        · obtain ⟨shorter, hmem, rfl⟩ := List.mem_map.mp hlonger
          exact hlater shorter hmem
        · rw [List.mem_singleton.mp hnone]
          exact ⟨c, rfl, hc⟩
    · exact ⟨[], by simp [runs_cons, hc], nofun⟩

theorem first?_many :
    (many set).first? text = some ⟨text.takeWhile set.has, text.dropWhile set.has⟩ := by
  obtain ⟨later, hruns, -⟩ := runs_eq set text
  rw [first?_eq, ways_many, hruns, List.head?_cons]

theorem total_many (set : CharClass) : Total (many set) := by
  intro text
  obtain ⟨later, hruns, -⟩ := runs_eq set text
  simp [hruns]

theorem greedy_many (set : CharClass) : Greedy set (many set) := by
  intro text way later hways
  obtain ⟨shorter, hruns, hshorter⟩ := runs_eq set text
  rw [ways_many, hruns] at hways
  cases hways
  exact hshorter

/-- A single character is never given back for less, so nothing more is known of later ways. -/
theorem greedy_one (set : CharClass) : Greedy [] (one set) := by
  intro text way later hways
  cases text with
  | nil => cases hways
  | cons c rest =>
    rw [ways_one_cons] at hways
    split at hways <;> cases hways
    exact nofun

theorem greedy_maybe_one (set : CharClass) : Greedy set (maybe (one set)) := by
  intro text way later hways
  cases text with
  | nil =>
    cases hways
    exact nofun
  | cons c rest =>
    rw [ways_maybe, ways_one_cons] at hways
    split at hways
    · next hc =>
      cases hways
      intro other hother
      rw [List.mem_singleton.mp hother]
      exact ⟨c, rfl, hc⟩
    · cases hways
      exact nofun

theorem failsOn_nil (p : Pattern) : FailsOn [] p := by
  rintro text ⟨c, -, hc⟩
  cases hc

/-! Where nothing else than the first way can be gone on with, the others do not count. -/

theorem Greedy.flatMap_ways {α : Type} {next : Way → List α} (hp : Greedy set p)
    (hnext : ∀ way, StartsIn set way.rest → next way = []) :
    (p.ways text).flatMap next = (p.first? text).elim [] next := by
  cases hways : p.ways text with
  | nil => simp [first?_eq, hways]
  | cons way later =>
    have hlater : later.flatMap next = [] :=
      List.flatMap_eq_nil_iff.mpr fun other hother => hnext other (hp text way later hways other hother)
    simp [first?_eq, hways, hlater]

theorem Greedy.ways_seq (hp : Greedy set p) (hq : FailsOn set q) :
    (seq p q).ways text = (p.first? text).elim [] fun way => (q.ways way.rest).map way.andThen := by
  rw [Pattern.ways_seq]
  refine hp.flatMap_ways fun way hstart => ?_
  rw [hq way.rest hstart, List.map_nil]

theorem Greedy.first?_seq (hp : Greedy set p) (hq : FailsOn set q) :
    (seq p q).first? text =
      (p.first? text).bind fun way => (q.first? way.rest).map way.andThen := by
  rw [first?_eq, hp.ways_seq hq]
  cases p.first? text with
  | none => rfl
  | some way => exact List.head?_map

theorem Total.first?_seq (hq : Total q) :
    (seq p q).first? text =
      (p.first? text).bind fun way => (q.first? way.rest).map way.andThen := by
  rw [first?_eq, first?_eq, ways_seq]
  cases p.ways text with
  | nil => rfl
  | cons way later =>
    obtain ⟨next, others, hnext⟩ := List.exists_cons_of_ne_nil (hq way.rest)
    simp [first?_eq, hnext]

theorem Greedy.seq (hp : Greedy set p) (hq : FailsOn set q) (hlast : Greedy other q) :
    Greedy other (seq p q) := by
  intro text way later hways
  rw [hp.ways_seq hq] at hways
  cases hfirst : p.first? text with
  | none => simp [hfirst] at hways
  | some front =>
    rw [hfirst, Option.elim_some, List.map_eq_cons_iff] at hways
    obtain ⟨next, others, hnext, -, rfl⟩ := hways
    intro last hmem
    obtain ⟨shorter, hshorter, rfl⟩ := List.mem_map.mp hmem
    exact hlast _ next others hnext shorter hshorter

/-! What is picked. -/

variable {pattern : Picking}

/-- The part that is picked begins where the part before it ends. -/
theorem Picking.picks_eq (hbefore : Greedy set pattern.before) (hpicked : FailsOn set pattern.picked) :
    pattern.picks text = (pattern.before.first? text).elim [] fun before =>
      (pattern.picked.ways before.rest).flatMap fun picked =>
        (pattern.after.ways picked.rest).map fun _ => picked.taken := by
  refine hbefore.flatMap_ways fun way hstart => ?_
  rw [hpicked way.rest hstart, List.flatMap_nil]

end

end SqlTemplate.Text.Pattern
