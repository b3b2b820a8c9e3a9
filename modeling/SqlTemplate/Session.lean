import SqlTemplate.Session.Object

/-! A run of steps on one template parser and one binding mode. -/
namespace SqlTemplate

/-- The parser's template and its count of placeholders, the blocks of all objects, the template
that was parsed last, and the mode. -/
structure Session where
  template : Text
  passed : Nat
  blocks : BlockStore
  held : TemplateObject
  mode : SkipMode
  deriving DecidableEq, Repr

namespace Session

inductive Step
  | parse
  | setTemplate (template : Text)
  | setMode (mode : SkipMode)
  | bind (args : Value)
  | build (template : Text) (args : Value)
  | inspect (template : Text)

inductive Answer
  | done
  | bound (nodes : List Node)
  | query (text : Text)
  | parsed (template : ParsedTemplate)
  | failed (cause : BuildError)

/-- The template that was parsed last, as it reads now. -/
def current (s : Session) : ParsedTemplate := s.held.read s.blocks

def start (template : Text) (mode : SkipMode) : Session := ⟨template, 0, [], .empty, mode⟩

/-- One step: its answer and the state after it. Only a parse that succeeds replaces the current
template; building and inspecting use a parser of their own. -/
def step (s : Session) : Step → Answer × Session
  | .parse =>
    match parseObject s.template ⟨s.passed, s.blocks⟩ with
    | (.ok parsed, after) =>
      (.done, { s with passed := after.passed, blocks := after.blocks, held := parsed })
    | (.error e, after) =>
      (.failed (.malformed e), { s with passed := after.passed, blocks := after.blocks })
  | .setTemplate template => (.done, { s with template })
  | .setMode mode => (.done, { s with mode })
  | .bind args =>
    match bindObject s.mode s.held args s.blocks with
    | (.ok nodes, blocks) => (.bound (nodes.map (·.read blocks)), { s with blocks })
    | (.error e, blocks) => (.failed (.bind e), { s with blocks })
  | .build template args =>
    match parseObject template ⟨0, s.blocks⟩ with
    | (.error e, after) => (.failed (.malformed e), { s with blocks := after.blocks })
    | (.ok parsed, after) =>
      match bindObject s.mode parsed args after.blocks with
      | (.ok nodes, blocks) => (.query (serialize (nodes.map (·.read blocks))), { s with blocks })
      | (.error e, blocks) => (.failed (.bind e), { s with blocks })
  | .inspect template =>
    match parseObject template ⟨0, s.blocks⟩ with
    | (.ok parsed, after) => (.parsed (parsed.read after.blocks), { s with blocks := after.blocks })
    | (.error e, after) => (.failed (.malformed e), { s with blocks := after.blocks })

/-- The answers to a list of steps, each with the state after it. -/
def run (s : Session) : List Step → List (Answer × Session)
  | [] => []
  | step :: rest =>
    let next := s.step step
    next :: run next.2 rest

@[simp] theorem length_run (s : Session) (steps : List Step) :
    (s.run steps).length = steps.length := by
  induction steps generalizing s with
  | nil => rfl
  | cons step rest ih => simp [run, ih]

end Session
end SqlTemplate
