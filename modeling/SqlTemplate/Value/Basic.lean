import SqlTemplate.Double.Basic

/-! Argument values: scalars, sequences, mappings, the skip mark, and values of other types. -/
namespace SqlTemplate

inductive SequenceKind
  | list
  | tuple
  | deque
  deriving DecidableEq, Repr

inductive MappingKind
  | dict
  | ordered
  | view
  deriving DecidableEq, Repr

/-- Kinds of values that no placeholder can write and that have no items. -/
inductive ForeignKind
  | decimal
  | date
  | datetime
  | time
  | complex
  | object
  deriving DecidableEq, Repr

/-- A value that an argument, an element or a mapping key may have. -/
inductive Value
  | null
  | bool (b : Bool)
  | int (i : Int)
  | double (d : Double)
  | str (text : Text)
  | sequence (kind : SequenceKind) (items : List Value)
  | range (start stop step : Int)
  | mapping (kind : MappingKind) (entries : List (Value × Value))
  | skip
  | bytes (fixed : Bool) (content : List UInt8)
  | set (items : List Value)
  | foreign (kind : ForeignKind) (content : Text)

namespace Value

instance : Inhabited Value := ⟨.null⟩

abbrev list (items : List Value) : Value := .sequence .list items

abbrev dict (entries : List (Value × Value)) : Value := .mapping .dict entries

/-- The numbers from `start` in steps, before `stop` is reached; a step of zero has none. -/
def rangeItems (start stop step : Int) : List Int :=
  let count :=
    if 0 < step then (stop - start + step - 1) / step
    else if step < 0 then (start - stop - step - 1) / -step
    else 0
  (List.range count.toNat).map fun k : Nat => start + k * step

/-- The items of a sequence; text and bytes are no sequences. -/
def sequence? : Value → Option (List Value)
  | .sequence _ items => some items
  | .range start stop step => some ((rangeItems start stop step).map .int)
  | _ => none

def mapping? : Value → Option (List (Value × Value))
  | .mapping _ entries => some entries
  | _ => none

def isSequence (v : Value) : Bool := v.sequence?.isSome

def isMapping (v : Value) : Bool := v.mapping?.isSome

def isSkip : Value → Bool
  | .skip => true
  | _ => false

/-- What a walk over the value gives: items, keys, characters or byte values. -/
def iterate? : Value → Option (List Value)
  | .str text => some (text.map fun c => .str [c])
  | .bytes _ content => some (content.map fun b => .int b.toNat)
  | .set items => some items
  | .mapping _ entries => some (entries.map (·.1))
  | v => v.sequence?

/-- The name of the value's type. -/
def typeName : Value → String
  | .null => "NoneType"
  | .bool _ => "bool"
  | .int _ => "int"
  | .double _ => "float"
  | .str _ => "str"
  | .sequence .list _ => "list"
  | .sequence .tuple _ => "tuple"
  | .sequence .deque _ => "deque"
  | .range .. => "range"
  | .mapping .dict _ => "dict"
  | .mapping .ordered _ => "OrderedDict"
  | .mapping .view _ => "mappingproxy"
  | .skip => "_SkipType"
  | .bytes true _ => "bytes"
  | .bytes false _ => "bytearray"
  | .set _ => "set"
  | .foreign .decimal _ => "Decimal"
  | .foreign .date _ => "date"
  | .foreign .datetime _ => "datetime"
  | .foreign .time _ => "time"
  | .foreign .complex _ => "complex"
  | .foreign .object _ => "object"

/-- The type's name with the module that it comes from. -/
def qualifiedTypeName : Value → String
  | .foreign .decimal _ => "decimal.Decimal"
  | .foreign .date _ => "datetime.date"
  | .foreign .datetime _ => "datetime.datetime"
  | .foreign .time _ => "datetime.time"
  | v => v.typeName

example : rangeItems 5 0 (-2) = [5, 3, 1] ∧ rangeItems 0 0 1 = [] := by decide

end Value
end SqlTemplate
