import SqlTemplate.Text.Blank
import SqlTemplate.Text.Digit

/-! Patterns for the front of a text. A matcher tries one way after another and goes back where what
follows fails; here all the ways stand in a list, in the order in which it tries them. -/
namespace SqlTemplate.Text

/-- What a set of characters is listed from. -/
inductive CharClass.Item
  | blank
  | digit
  | single (c : Char)
  deriving DecidableEq, Repr

abbrev CharClass := List CharClass.Item

namespace CharClass

@[simp] def Item.has : Item → Char → Bool
  | .blank, c => isBlank c
  | .digit, c => isDecimalDigit c
  | .single d, c => c == d

def has (set : CharClass) (c : Char) : Bool := set.any (·.has c)

@[simp] theorem has_nil (c : Char) : has [] c = false := rfl

@[simp] theorem has_cons (item : Item) (set : CharClass) (c : Char) :
    has (item :: set) c = (item.has c || has set c) := rfl

theorem has_blank : has [.blank] = isBlank := funext fun c => Bool.or_false (isBlank c)

theorem has_digit : has [.digit] = isDecimalDigit := funext fun c => Bool.or_false (isDecimalDigit c)

end CharClass

/-- A pattern. An option and a repetition try to take something before they take less. -/
inductive Pattern
  | empty
  | one (set : CharClass)
  | many (set : CharClass)
  | maybe (part : Pattern)
  | seq (first second : Pattern)
  | either (first second : Pattern)
  | unlessNext (set : CharClass)
  deriving DecidableEq, Repr

/-- A way to match: what is taken from the front, and what it leaves. -/
structure Pattern.Way where
  taken : Text
  rest : Text
  deriving DecidableEq, Repr

/-- A pattern of which one part is picked. -/
structure Pattern.Picking where
  before : Pattern
  picked : Pattern
  after : Pattern
  deriving DecidableEq, Repr

namespace Pattern

/-- The first way and then one that takes from its rest. -/
def Way.andThen (first second : Way) : Way := ⟨first.taken ++ second.taken, second.rest⟩

@[simp] theorem Way.mk_andThen (taken rest : Text) (way : Way) :
    (Way.mk taken rest).andThen way = ⟨taken ++ way.taken, way.rest⟩ := rfl

/-- The ways to take characters of a set, as many as there are and then one less each time. -/
def runs (set : CharClass) : Text → List Way
  | [] => [⟨[], []⟩]
  | c :: rest =>
    if set.has c then (runs set rest).map (Way.andThen ⟨[c], rest⟩) ++ [⟨[], c :: rest⟩]
    else [⟨[], c :: rest⟩]

/-- All ways to match at the front of a text, in the order of the matcher. -/
def ways : Pattern → Text → List Way
  | .empty, text => [⟨[], text⟩]
  | .one _, [] => []
  | .one set, c :: rest => if set.has c then [⟨[c], rest⟩] else []
  | .many set, text => runs set text
  | .maybe part, text => part.ways text ++ [⟨[], text⟩]
  | .seq first second, text =>
    (first.ways text).flatMap fun way => (second.ways way.rest).map way.andThen
  | .either first second, text => first.ways text ++ second.ways text
  | .unlessNext set, text => if text.head?.any set.has then [] else [⟨[], text⟩]

section
variable (set : CharClass) (p q : Pattern) (c : Char) (rest text : Text)

@[simp] theorem runs_nil : runs set [] = [⟨[], []⟩] := rfl

theorem runs_cons : runs set (c :: rest) =
    if set.has c then (runs set rest).map (Way.andThen ⟨[c], rest⟩) ++ [⟨[], c :: rest⟩]
    else [⟨[], c :: rest⟩] := rfl

@[simp] theorem ways_empty : empty.ways text = [⟨[], text⟩] := rfl

@[simp] theorem ways_one_nil : (one set).ways [] = [] := rfl

@[simp] theorem ways_one_cons :
    (one set).ways (c :: rest) = if set.has c then [⟨[c], rest⟩] else [] := rfl

@[simp] theorem ways_many : (many set).ways text = runs set text := rfl

@[simp] theorem ways_maybe : (maybe p).ways text = p.ways text ++ [⟨[], text⟩] := rfl

@[simp] theorem ways_seq : (seq p q).ways text =
    (p.ways text).flatMap fun way => (q.ways way.rest).map way.andThen := rfl

@[simp] theorem ways_either : (either p q).ways text = p.ways text ++ q.ways text := rfl

@[simp] theorem ways_unlessNext :
    (unlessNext set).ways text = if text.head?.any set.has then [] else [⟨[], text⟩] := rfl

end

/-- The way that the matcher finds. -/
def first? (pattern : Pattern) (text : Text) : Option Way := (pattern.ways text).head?

theorem first?_eq (pattern : Pattern) (text : Text) :
    pattern.first? text = (pattern.ways text).head? := rfl

/-- The picked part of each match. -/
def Picking.picks (pattern : Picking) (text : Text) : List Text :=
  (pattern.before.ways text).flatMap fun before =>
    (pattern.picked.ways before.rest).flatMap fun picked =>
      (pattern.after.ways picked.rest).map fun _ => picked.taken

/-- The picked part of the match that is found; none if the text does not match. -/
def Picking.pick? (pattern : Picking) (text : Text) : Option Text := (pattern.picks text).head?

end Pattern
end SqlTemplate.Text
