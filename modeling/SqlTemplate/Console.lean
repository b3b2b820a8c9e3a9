import SqlTemplate.Text.Surrogate

/-! What a program needs of the console that it tells things on. -/
namespace SqlTemplate

/-- What a line tells of. -/
inductive Label
  | warning
  | error
  | success
  deriving DecidableEq, Repr

def Label.word : Label → Text
  | .warning => "Warning: ".toList
  | .error => "Error: ".toList
  | .success => "Success: ".toList

/-- What is shown under a label: the word for it, something more, and the end of a line. A console is
wide enough for the word, and may end lines after it. -/
def Label.Heads (label : Label) (line : Text) : Prop :=
  ∃ shown, line = label.word ++ shown ++ ['\n']

/-- A console without colours. It shows a text as it is, or with marks in square brackets that set
styles; marks that are not in order keep a text from being shown. A line has no half of a surrogate
pair that was not in the text. -/
structure Console where
  plain : Label → Text → Text
  marked : Label → Text → Except String Text
  plain_heads : ∀ (label : Label) text, label.Heads (plain label text)
  marked_heads : ∀ (label : Label) text line, marked label text = .ok line → label.Heads line
  unmarked : ∀ label text, '[' ∉ text → ∃ line, marked label text = .ok line
  marked_halves : ∀ label text line, marked label text = .ok line →
    ∀ c ∈ line, (Text.half? c).isSome = true → c ∈ text

theorem Label.Heads.getLast? {label : Label} {line : Text} (h : label.Heads line) :
    line.getLast? = some '\n' := by
  obtain ⟨shown, rfl⟩ := h
  simp

end SqlTemplate
