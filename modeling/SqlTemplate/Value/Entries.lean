import SqlTemplate.Value.Basic

/-! Mapping entries in order. Keys are compared by value, so a boolean, an integer and a double of
one numeric value are one key. -/
namespace SqlTemplate.Value

/-- A key that stands for an integer. -/
def keyInt? : Value → Option Int
  | .bool b => some (if b then 1 else 0)
  | .int i => some i
  | .double d => d.toInt?
  | _ => none

mutual

/-- Whether two keys name the same entry. -/
def sameKey : Value → Value → Bool
  | .null, .null => true
  | .skip, .skip => true
  | .str s, .str t => s == t
  | .bytes _ b, .bytes _ c => b == c
  | .foreign k s, .foreign l t => k == l && s == t
  | .sequence .tuple xs, .sequence .tuple ys => sameKeys xs ys
  | .double c, .double d => c.same d
  | v, w => v.keyInt?.isSome && v.keyInt? == w.keyInt?

def sameKeys : List Value → List Value → Bool
  | [], [] => true
  | x :: xs, y :: ys => sameKey x y && sameKeys xs ys
  | _, _ => false

end

/-- Sets the value of a key: in its place if the key is there, at the end if not. -/
def setEntry (key value : Value) : List (Value × Value) → List (Value × Value)
  | [] => [(key, value)]
  | (k, v) :: rest =>
    if k.sameKey key then (k, value) :: rest else (k, v) :: setEntry key value rest

/-- The entries that remain when pairs are set one after another: a repeated key keeps its first
place and takes its last value. -/
def entriesOf (pairs : List (Value × Value)) : List (Value × Value) :=
  pairs.foldl (fun entries p => setEntry p.1 p.2 entries) []

/-- The value under a text key. -/
def lookup? (name : Text) (entries : List (Value × Value)) : Option Value :=
  (entries.find? fun e => e.1.sameKey (.str name)).map (·.2)

end SqlTemplate.Value
