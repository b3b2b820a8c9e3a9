import SqlTemplate.Json.Reader
import SqlTemplate.Json.Writer
import SqlTemplate.Numeral.Literal
import SqlTemplate.Template.Basic
import SqlTemplate.Value.Entries

/-! Parsed templates as data: their JSON export, and the way back from data of that shape. -/
namespace SqlTemplate

namespace Fragment

def toValue : Fragment → Value
  | .literal text =>
    .dict [(.str "kind".toList, .str "literal".toList), (.str "text".toList, .str text)]
  | .placeholder s =>
    .dict [(.str "kind".toList, .str "placeholder".toList), (.str "specifier".toList, .str s.token)]

end Fragment

namespace Node

def toValue : Node → Value
  | .fragment f => f.toValue
  | .block children =>
    .dict [(.str "kind".toList, .str "block".toList),
      (.str "children".toList, .list (children.map Fragment.toValue))]

end Node

/-- The number of an integral value, or of a text that writes one, with or without a zero
fraction. -/
def countOf? : Value → Option Int
  | .bool b => some (if b then 1 else 0)
  | .int i => some i
  | .double d => d.toInt?
  | .str text =>
    let whole := text.takeWhile (· != '.')
    let fraction := (text.drop whole.length).drop 1
    if fraction.all (fun c => c == '0' || Text.isMargin c) then Numeral.integer? whole else none
  | _ => none

def textOf? : Value → Option Text
  | .str text => some text
  | _ => none

def itemsOf? : Value → Option (List Value)
  | .sequence _ items => some items
  | _ => none

/-- The value of a field, read by `read?`; a field that is absent has the default. -/
def fieldOr {α : Type} (entries : List (Value × Value)) (name : String) (absent : α)
    (read? : Value → Option α) : Option α :=
  match Value.lookup? name.toList entries with
  | none => some absent
  | some v => read? v

def fragmentOfEntries? (entries : List (Value × Value)) : Option Fragment :=
  match Value.lookup? "kind".toList entries with
  | some (.str kind) =>
    if kind = "literal".toList then
      (Value.lookup? "text".toList entries).bind textOf? |>.map Fragment.literal
    else if kind = "placeholder".toList then
      (fieldOr entries "specifier" .plain fun v => textOf? v >>= Specifier.ofToken?).map
        Fragment.placeholder
    else none
  | _ => none

def fragmentOf? (v : Value) : Option Fragment := v.mapping?.bind fragmentOfEntries?

/-- A node from data: a kind, and the fields of that kind. Fields of other names are ignored. -/
def nodeOf? (v : Value) : Option Node := do
  let entries ← v.mapping?
  match Value.lookup? "kind".toList entries with
  | some (.str kind) =>
    if kind = "block".toList then
      let children ← fieldOr entries "children" [] fun v => itemsOf? v >>= List.mapM fragmentOf?
      some (.block children)
    else Node.fragment <$> fragmentOfEntries? entries
  | _ => none

namespace ParsedTemplate

def toValue (p : ParsedTemplate) : Value :=
  .dict [(.str "placeholder_count".toList, .int p.placeholderCount),
    (.str "nodes".toList, .list (p.nodes.map Node.toValue))]

/-- A parsed template from data; the count is taken as stated. -/
def ofValue? (v : Value) : Option ParsedTemplate := do
  let entries ← v.mapping?
  let nodes ← fieldOr entries "nodes" [] fun v => itemsOf? v >>= List.mapM nodeOf?
  let count ← fieldOr entries "placeholder_count" 0 countOf?
  some ⟨nodes, count⟩

/-- The JSON text of the template's structure. -/
def exported (p : ParsedTemplate) : Text := Json.write .indented 0 p.toValue

end ParsedTemplate
end SqlTemplate
