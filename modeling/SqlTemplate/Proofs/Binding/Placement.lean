import Mathlib.Data.List.Find
import SqlTemplate.Proofs.Binding.Run
import SqlTemplate.Proofs.Outcome

/-! Where the readings of a run stand among the nodes, and at which of them a block is dropped. -/
namespace SqlTemplate

/-- What comes of an argument that is formatted. -/
def Effect.ofFormat : Except FormatError Text → Effect
  | .ok text => .written text
  | .error cause => .refused cause

namespace Reading

/-- A reading at a placeholder of a block whose placeholders are numbered from `k` on. An argument
that needs a skip drops the block, together with the placeholders that follow; any other is
formatted. -/
structure PlacedInBlock (k : Nat) (children : List Fragment) (r : Reading) : Prop where
  mem : (r.slot, .placeholder r.specifier) ∈ Fragment.numbered k children
  effect : r.effect = if r.value.needsSkip then
      .dropping (k + Fragment.placeholderCount children - (r.slot + 1))
    else .ofFormat (formatValue r.specifier r.value)

/-- A reading at a placeholder of the nodes. Outside any block the argument is formatted, whatever
it is. -/
inductive PlacedIn (k : Nat) (nodes : List Node) (r : Reading) : Prop
  | outside (mem : (r.slot, .fragment (.placeholder r.specifier)) ∈ Node.numbered k nodes)
      (effect : r.effect = .ofFormat (formatValue r.specifier r.value))
  | inBlock {start : Nat} {children : List Fragment}
      (block : (start, .block children) ∈ Node.numbered k nodes)
      (placed : r.PlacedInBlock start children)

section
variable {k : Nat} {r : Reading}

theorem PlacedInBlock.bounds {children : List Fragment} (h : r.PlacedInBlock k children) :
    k ≤ r.slot ∧ r.slot < k + Fragment.placeholderCount children :=
  Fragment.number_lt_of_mem h.mem

theorem PlacedInBlock.literal {text : Text} {rest : List Fragment} (h : r.PlacedInBlock k rest) :
    r.PlacedInBlock k (.literal text :: rest) :=
  ⟨List.mem_cons_of_mem _ h.mem, by rw [Fragment.placeholderCount_literal, h.effect]⟩

theorem PlacedInBlock.placeholder {s : Specifier} {rest : List Fragment}
    (h : r.PlacedInBlock (k + 1) rest) : r.PlacedInBlock k (.placeholder s :: rest) := by
  refine ⟨List.mem_cons_of_mem _ h.mem, ?_⟩
  rw [Fragment.placeholderCount_placeholder, Nat.add_comm _ 1, ← Nat.add_assoc, h.effect]

theorem PlacedIn.cons {node : Node} {rest : List Node}
    (h : r.PlacedIn (k + node.placeholderCount) rest) : r.PlacedIn k (node :: rest) := by
  cases h with
  | outside mem effect => exact .outside (List.mem_cons_of_mem _ mem) effect
  | inBlock block placed => exact .inBlock (List.mem_cons_of_mem _ block) placed

theorem PlacedIn.literal {text : Text} {rest : List Node} (h : r.PlacedIn k rest) :
    r.PlacedIn k (.fragment (.literal text) :: rest) :=
  cons (by rwa [Node.placeholderCount_literal])

theorem PlacedIn.le {nodes : List Node} (h : r.PlacedIn k nodes) : k ≤ r.slot := by
  cases h with
  | outside mem => exact Node.le_of_mem_numbered mem
  | inBlock block placed => exact Nat.le_trans (Node.le_of_mem_numbered block) placed.bounds.1

/-- An argument that is formatted and not refused is written. -/
theorem exists_text_of_not_refused (heffect : r.effect = .ofFormat (formatValue r.specifier r.value))
    (hgoes : ∀ cause, r.effect ≠ .refused cause) :
    ∃ text, formatValue r.specifier r.value = .ok text ∧ r.effect = .written text := by
  cases hformat : formatValue r.specifier r.value with
  | ok text => exact ⟨text, rfl, by rw [heffect, hformat, Effect.ofFormat]⟩
  | error cause => exact (hgoes cause (by rw [heffect, hformat, Effect.ofFormat])).elim

/-- What is formatted is formatted by its placeholder. -/
theorem PlacedIn.effect_of_isFormatted {nodes : List Node} (h : r.PlacedIn k nodes)
    (hformatted : r.isFormatted = true) :
    r.effect = .ofFormat (formatValue r.specifier r.value) := by
  cases h with
  | outside _ effect => exact effect
  | inBlock _ placed =>
    have heffect := placed.effect
    by_cases hskip : r.value.needsSkip = true
    · rw [if_pos hskip] at heffect
      rw [Reading.isFormatted, heffect] at hformatted
      cases hformatted
    · rwa [if_neg hskip] at heffect

end

end Reading

section
variable {mode : SkipMode} {k : Nat} {args : List Value} {readings : List Reading}

theorem BlockRun.placed {children : List Fragment} {outcome : Except BindError BlockOutcome}
    (h : BlockRun mode k children args readings outcome) :
    ∀ r ∈ readings, r.PlacedInBlock k children := by
  induction h with
  | done => exact List.forall_mem_nil _
  | literal _ _ ih => exact fun r hr => (ih r hr).literal
  | outOfArguments => exact List.forall_mem_nil _
  | dropped skips =>
    refine List.forall_mem_singleton.mpr ⟨List.mem_cons_self, ?_⟩
    rw [if_pos skips, Fragment.placeholderCount_placeholder]
    refine congrArg Effect.dropping ?_
    dsimp only
    omega
  | refused keeps fails =>
    refine List.forall_mem_singleton.mpr ⟨List.mem_cons_self, ?_⟩
    rw [if_neg keeps, fails]
    rfl
  | written keeps writes _ ih =>
    refine List.forall_mem_cons.mpr ⟨⟨List.mem_cons_self, ?_⟩, fun r hr => (ih r hr).placeholder⟩
    rw [if_neg keeps, writes]
    rfl

/-- Every reading is made at a placeholder of the nodes. -/
theorem NodesRun.placed {nodes : List Node} {outcome : Except BindError (List Node × List Value)}
    (h : NodesRun mode k nodes args readings outcome) : ∀ r ∈ readings, r.PlacedIn k nodes := by
  induction h with
  | done => exact List.forall_mem_nil _
  | literal text _ ih => exact fun r hr => .literal (ih r hr)
  | outOfArguments => exact List.forall_mem_nil _
  | refused fails =>
    refine List.forall_mem_singleton.mpr (.outside List.mem_cons_self ?_)
    rw [fails]
    rfl
  | written writes _ ih =>
    refine List.forall_mem_cons.mpr ⟨.outside List.mem_cons_self ?_, fun r hr => (ih r hr).cons⟩
    rw [writes]
    rfl
  | failed block => exact fun r hr => .inBlock List.mem_cons_self (block.placed r hr)
  | block block _ ih =>
    refine List.forall_mem_append.mpr ⟨?_, fun r hr => (ih r hr).cons⟩
    exact fun r hr => .inBlock List.mem_cons_self (block.placed r hr)

end

/-! A block is dropped at one of its own readings, so the readings before and after it do not
matter. -/

/-- Whether the reading drops a block whose placeholders are numbered from `k` on. -/
def Reading.drops (k : Nat) (children : List Fragment) (r : Reading) : Bool :=
  !r.isFormatted && decide (k ≤ r.slot ∧ r.slot < k + Fragment.placeholderCount children)

namespace Node

/-- A placeholder outside any block has a number that none in a block has. -/
theorem lt_or_le_of_mem_numbered {k j start : Nat} {s : Specifier} {children : List Fragment}
    {nodes : List Node} (hplaceholder : (j, .fragment (.placeholder s)) ∈ numbered k nodes)
    (hblock : (start, .block children) ∈ numbered k nodes) :
    j < start ∨ start + Fragment.placeholderCount children ≤ j := by
  induction nodes generalizing k with
  | nil => simp at hplaceholder
  | cons node rest ih =>
    rw [numbered_cons] at hplaceholder hblock
    rcases List.mem_cons.mp hplaceholder with hfirst | hplaceholder
    · cases hfirst
      rcases List.mem_cons.mp hblock with hfirst | hblock
      · cases hfirst
      · have hstart := le_of_mem_numbered hblock
        rw [placeholderCount_placeholder] at hstart
        omega
    · rcases List.mem_cons.mp hblock with hfirst | hblock
      · cases hfirst
        exact .inr (le_of_mem_numbered hplaceholder)
      · exact ih hplaceholder hblock

/-- The number of the placeholder at which a block is dropped; none for a node that stays. -/
def skippedAt? (readings : List Reading) : Nat × Node → Option Nat
  | (_, .fragment _) => none
  | (k, .block children) => (readings.find? (Reading.drops k children)).map Reading.slot

/-- How many placeholders a dropped block has after the one at which it is dropped. -/
def afterSkip (readings : List Reading) (node : Nat × Node) : Nat :=
  ((skippedAt? readings node).map fun j => node.1 + node.2.placeholderCount - (j + 1)).getD 0

@[simp] theorem skippedAt?_fragment (readings : List Reading) (k : Nat) (f : Fragment) :
    skippedAt? readings (k, .fragment f) = none := rfl

@[simp] theorem afterSkip_fragment (readings : List Reading) (k : Nat) (f : Fragment) :
    afterSkip readings (k, .fragment f) = 0 := rfl

variable {k : Nat} {children : List Fragment} {readings earlier later : List Reading}

theorem skippedAt?_of_placed (hearlier : ∀ r ∈ earlier, r.slot < k)
    (hplaced : ∀ r ∈ readings, r.PlacedInBlock k children)
    (hlater : ∀ r ∈ later, k + Fragment.placeholderCount children ≤ r.slot) :
    skippedAt? (earlier ++ (readings ++ later)) (k, .block children) =
      (readings.find? fun r => !r.isFormatted).map Reading.slot := by
  have hbefore : earlier.find? (Reading.drops k children) = none := by
    refine List.find?_eq_none.mpr fun r hr => ?_
    have hslot := hearlier r hr
    simp only [Reading.drops, Bool.and_eq_true, decide_eq_true_eq]
    omega
  have hafter : later.find? (Reading.drops k children) = none := by
    refine List.find?_eq_none.mpr fun r hr => ?_
    have hslot := hlater r hr
    simp only [Reading.drops, Bool.and_eq_true, decide_eq_true_eq]
    omega
  have hown : readings.find? (Reading.drops k children) =
      readings.find? fun r => !r.isFormatted := by
    refine List.find?_congr fun r hr => ?_
    rw [Reading.drops, decide_eq_true (hplaced r hr).bounds, Bool.and_true]
  rw [skippedAt?, List.find?_append, List.find?_append, hbefore, hafter, hown]
  simp

/-- For the nodes after a first one, what is read before includes the readings of that one. -/
theorem slot_lt_of_mem_append {m : Nat} (hearlier : ∀ r ∈ earlier, r.slot < k)
    (hreadings : ∀ r ∈ readings, r.slot < k + m) : ∀ r ∈ earlier ++ readings, r.slot < k + m := by
  refine List.forall_mem_append.mpr ⟨fun r hr => ?_, hreadings⟩
  have hslot := hearlier r hr
  omega

end Node

section
variable {mode : SkipMode} {k : Nat} {args : List Value} {readings : List Reading}
  {children : List Fragment} {kept : Option (List Fragment)} {left : List Value}

/-- A block is kept if and only if none of its readings drops it. -/
theorem BlockRun.find?_isNone {outcome : Except BindError BlockOutcome}
    (h : BlockRun mode k children args readings outcome) (hok : outcome = .ok (kept, left)) :
    (readings.find? fun r => !r.isFormatted).isNone = kept.isSome := by
  induction h generalizing kept left with
  | done =>
    cases hok
    rfl
  | literal _ _ ih =>
    obtain ⟨⟨later, _⟩, hlater, ⟨⟩⟩ := Outcome.map_eq_ok_iff.mp hok
    rw [ih hlater, Option.isSome_map]
  | outOfArguments => cases hok
  | dropped =>
    cases hok
    rfl
  | refused => cases hok
  | written _ _ _ ih =>
    obtain ⟨⟨later, _⟩, hlater, ⟨⟩⟩ := Outcome.map_eq_ok_iff.mp hok
    rw [List.find?_cons_of_neg (by simp [Reading.isFormatted]), ih hlater, Option.isSome_map]

/-- A block that does not fail reads an argument for each placeholder, or for each one up to that at
which it is dropped. -/
theorem BlockRun.length_readings {outcome : Except BindError BlockOutcome}
    (h : BlockRun mode k children args readings outcome) (hok : outcome = .ok (kept, left)) :
    readings.length + ((readings.find? fun r => !r.isFormatted).map fun r =>
      k + Fragment.placeholderCount children - (r.slot + 1)).getD 0 =
        Fragment.placeholderCount children := by
  induction h generalizing kept left with
  | done => rfl
  | literal _ _ ih =>
    obtain ⟨⟨later, _⟩, hlater, ⟨⟩⟩ := Outcome.map_eq_ok_iff.mp hok
    rw [Fragment.placeholderCount_literal]
    exact ih hlater
  | outOfArguments => cases hok
  | @dropped k s rest =>
    rw [List.find?_cons_of_pos (by rfl), Option.map_some, Option.getD_some, List.length_singleton,
      Fragment.placeholderCount_placeholder]
    dsimp only
    omega
  | refused => cases hok
  | @written k s rest _ _ _ _ _ _ _ _ ih =>
    obtain ⟨⟨later, _⟩, hlater, ⟨⟩⟩ := Outcome.map_eq_ok_iff.mp hok
    have hrest := ih hlater
    have hcount : k + (Fragment.placeholderCount rest + 1) =
        k + 1 + Fragment.placeholderCount rest := by omega
    rw [List.find?_cons_of_neg (by simp [Reading.isFormatted]), List.length_cons,
      Fragment.placeholderCount_placeholder, hcount]
    omega

end

end SqlTemplate
