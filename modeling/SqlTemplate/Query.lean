import SqlTemplate.Binding.Bind

/-! Queries from templates and arguments. -/
namespace SqlTemplate

/-- Binds the arguments that a value holds. -/
def bindValue (mode : SkipMode) (parsed : ParsedTemplate) (args : Value) :
    Except BindError (List Node) :=
  argumentsOf args >>= bind mode parsed

/-- Parses the template, then looks at the arguments, then binds and serializes. -/
def buildQuery (mode : SkipMode) (template : Text) (args : Value) : Except BuildError Text :=
  match parse template with
  | .error e => .error (.malformed e)
  | .ok parsed =>
    match bindValue mode parsed args with
    | .error e => .error (.bind e)
    | .ok nodes => .ok (serialize nodes)

end SqlTemplate
