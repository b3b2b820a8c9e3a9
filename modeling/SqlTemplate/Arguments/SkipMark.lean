import SqlTemplate.Binding.Skip

/-! Written arguments name the skip mark by a token. -/
namespace SqlTemplate

def skipToken : Text := ":skip".toList

/-- The token becomes the mark. -/
def Value.markIfToken : Value → Value
  | .str text => if text = skipToken then .skip else .str text
  | v => v

/-- The token becomes the mark as an argument, as an item of a list and as the value of an entry;
keys and deeper values stay. -/
def resolveSkip : Value → Value
  | .sequence .list items => .list (items.map Value.markIfToken)
  | .mapping .dict entries => .dict (entries.map fun e => (e.1, e.2.markIfToken))
  | .mapping .ordered entries => .dict (entries.map fun e => (e.1, e.2.markIfToken))
  | v => v.markIfToken

def resolveSkips (args : List Value) : List Value := args.map resolveSkip

@[simp] theorem length_resolveSkips (args : List Value) :
    (resolveSkips args).length = args.length := by
  simp [resolveSkips]

end SqlTemplate
