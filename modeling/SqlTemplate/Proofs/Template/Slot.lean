import SqlTemplate.Template.Basic

/-! Placeholders counted and numbered from left to right, through blocks and all. -/
namespace SqlTemplate

namespace Fragment

@[simp] theorem placeholderCount_nil : placeholderCount [] = 0 := rfl

@[simp] theorem placeholderCount_literal (text : Text) (rest : List Fragment) :
    placeholderCount (.literal text :: rest) = placeholderCount rest :=
  List.countP_cons_of_neg (by simp [isPlaceholder])

@[simp] theorem placeholderCount_placeholder (s : Specifier) (rest : List Fragment) :
    placeholderCount (.placeholder s :: rest) = placeholderCount rest + 1 :=
  List.countP_cons_of_pos rfl

/-- Each fragment with the number of placeholders before it, counted from `k`. For a placeholder
this is its own number. -/
def numbered (k : Nat) : List Fragment → List (Nat × Fragment)
  | [] => []
  | f :: rest => (k, f) :: numbered (k + placeholderCount [f]) rest

@[simp] theorem numbered_nil (k : Nat) : numbered k [] = [] := rfl

@[simp] theorem numbered_literal (k : Nat) (text : Text) (rest : List Fragment) :
    numbered k (.literal text :: rest) = (k, .literal text) :: numbered k rest := rfl

@[simp] theorem numbered_placeholder (k : Nat) (s : Specifier) (rest : List Fragment) :
    numbered k (.placeholder s :: rest) = (k, .placeholder s) :: numbered (k + 1) rest := rfl

/-- The placeholders of a list have numbers from `k` on, as many as there are placeholders. -/
theorem number_lt_of_mem {k j : Nat} {s : Specifier} {fragments : List Fragment}
    (h : (j, .placeholder s) ∈ numbered k fragments) :
    k ≤ j ∧ j < k + placeholderCount fragments := by
  induction fragments generalizing k with
  | nil => simp at h
  | cons f rest ih =>
    cases f with
    | literal text =>
      have hrest := ih (by simpa using h)
      simpa using hrest
    | placeholder t =>
      rw [numbered_placeholder] at h
      rw [placeholderCount_placeholder]
      rcases List.mem_cons.mp h with h | h
      · cases h
        omega
      · have hrest := ih h
        omega

end Fragment

namespace Node

/-- How many placeholders the nodes have, those in blocks included. -/
def slotCount : List Node → Nat
  | [] => 0
  | node :: rest => node.placeholderCount + slotCount rest

@[simp] theorem slotCount_nil : slotCount [] = 0 := rfl

@[simp] theorem slotCount_cons (node : Node) (rest : List Node) :
    slotCount (node :: rest) = node.placeholderCount + slotCount rest := rfl

@[simp] theorem placeholderCount_literal (text : Text) :
    placeholderCount (.fragment (.literal text)) = 0 := rfl

@[simp] theorem placeholderCount_placeholder (s : Specifier) :
    placeholderCount (.fragment (.placeholder s)) = 1 := rfl

@[simp] theorem placeholderCount_block (children : List Fragment) :
    placeholderCount (.block children) = Fragment.placeholderCount children := rfl

/-- Each node with the number of placeholders before it, counted from `k`. -/
def numbered (k : Nat) : List Node → List (Nat × Node)
  | [] => []
  | node :: rest => (k, node) :: numbered (k + node.placeholderCount) rest

@[simp] theorem numbered_nil (k : Nat) : numbered k [] = [] := rfl

@[simp] theorem numbered_cons (k : Nat) (node : Node) (rest : List Node) :
    numbered k (node :: rest) = (k, node) :: numbered (k + node.placeholderCount) rest := rfl

theorem le_of_mem_numbered {k j : Nat} {node : Node} {nodes : List Node}
    (h : (j, node) ∈ numbered k nodes) : k ≤ j := by
  induction nodes generalizing k with
  | nil => simp at h
  | cons first rest ih =>
    rcases List.mem_cons.mp h with h | h
    · cases h
      exact Nat.le_refl j
    · have hrest := ih h
      omega

end Node

/-- A template that states the real number of its placeholders. -/
def ParsedTemplate.Counted (p : ParsedTemplate) : Prop :=
  p.placeholderCount = Node.slotCount p.nodes

instance (p : ParsedTemplate) : Decidable p.Counted := inferInstanceAs (Decidable (_ = _))

end SqlTemplate
