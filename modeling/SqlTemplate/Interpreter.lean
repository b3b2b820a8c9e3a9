import SqlTemplate.Text.Surrogate

/-! Limits of the interpreter under a program: how deep what it reads may be nested, and which texts
it can encode. -/
namespace SqlTemplate

/-- Where nested text is read. The frames below a reader are not the same, nor is what it needs for
one level. -/
inductive NestedText
  | word
  | jsonFile
  | tomlFile
  | settingsFile
  deriving DecidableEq, Repr

/-- The characters that open a list or a mapping, and those that close one. -/
def isOpening (c : Char) : Bool := c == '[' || c == '\x7b'
def isClosing (c : Char) : Bool := c == ']' || c == '\x7d'

/-- As many levels as this have room on any stack. -/
def ampleNesting : Nat := 100

/-- The stack that readers recur on. A text that is nested too deep is refused before anything else
about it counts, and no text of a few brackets is. -/
structure Stack where
  fault? : NestedText → Text → Option String
  shallow : ∀ source text, text.countP isOpening ≤ ampleNesting → fault? source text = none

namespace Stack

/-- What comes of reading a text: a fault if there is no room for it, or else the result. -/
def reading {ε α : Type} (stack : Stack) (fail : String → ε) (source : NestedText) (text : Text)
    (result : Except ε α) : Except ε α :=
  match stack.fault? source text with
  | some message => .error (fail message)
  | none => result

/-- A stack that has no end. -/
def ample : Stack := ⟨fun _ _ => none, fun _ _ _ => rfl⟩

section
variable {ε α : Type} {stack : Stack} {fail : String → ε} {source : NestedText} {text : Text}
  {result : Except ε α}

@[simp] theorem fault?_ample : ample.fault? source text = none := rfl

@[simp] theorem reading_ample : ample.reading fail source text result = result := rfl

end

/-- How deep the brackets outside double quotes are nested at most, with `depth` of them open. -/
def nesting (quoted : Bool) (depth : Nat) : Text → Nat
  | [] => depth
  | '\\' :: _ :: rest => nesting quoted depth rest
  | c :: rest =>
    if c = '"' then nesting (!quoted) depth rest
    else if quoted then nesting quoted depth rest
    else if isOpening c then nesting quoted (depth + 1) rest
    else if isClosing c then max depth (nesting quoted (depth - 1) rest)
    else nesting quoted depth rest

theorem nesting_le (quoted : Bool) (depth : Nat) (text : Text) :
    nesting quoted depth text ≤ depth + text.countP isOpening := by
  fun_induction nesting quoted depth text <;> simp_all [List.countP_cons] <;> omega

/-- About the levels that a limit of a thousand frames leaves to each reader. -/
def room : NestedText → Nat
  | .word | .jsonFile => 900
  | .tomlFile | .settingsFile => 300

def standard : Stack where
  fault? source text :=
    if room source < nesting false 0 text then some "maximum recursion depth exceeded" else none
  shallow source text h := by
    have hnesting := nesting_le false 0 text
    have hroom : ampleNesting ≤ room source := by cases source <;> decide
    rw [if_neg]
    omega

end Stack

/-- How texts become bytes. Only a text with half a surrogate pair may have no encoding; a text that
has the stand-in of a half for a character of its own may have one. -/
structure Encoder where
  fault? : Text → Option String
  complete : ∀ text, Text.isWhole text = true → fault? text = none

/-- UTF-8, without the characters that stand for halves. -/
def Encoder.standard : Encoder := ⟨Text.halfFault?, fun _ => Text.halfFault?_eq_none⟩

end SqlTemplate
