import SqlTemplate.Proofs.Session.Bind
import SqlTemplate.Session

/-! What a session shows is settled by the steps alone. Neither the count that its parser keeps, nor
the blocks of earlier parses and bindings, nor a step that failed can be seen in a later answer. -/
namespace SqlTemplate.Session

/-- What a session shows: the template to be parsed, the mode, and the template parsed last. -/
structure View where
  template : Text
  mode : SkipMode
  current : ParsedTemplate
  deriving DecidableEq, Repr

def view (s : Session) : View := ⟨s.template, s.mode, s.current⟩

/-- A step on values: what parsing, binding and building give when there is nothing else. -/
def View.step (v : View) : Step → Answer × View
  | .parse =>
    match SqlTemplate.parse v.template with
    | .ok parsed => (.done, { v with current := parsed })
    | .error e => (.failed (.malformed e), v)
  | .setTemplate template => (.done, { v with template })
  | .setMode mode => (.done, { v with mode })
  | .bind args =>
    match bindValue v.mode v.current args with
    | .ok nodes => (.bound nodes, v)
    | .error e => (.failed (.bind e), v)
  | .build template args =>
    match buildQuery v.mode template args with
    | .ok text => (.query text, v)
    | .error e => (.failed e, v)
  | .inspect template =>
    match SqlTemplate.parse template with
    | .ok parsed => (.parsed parsed, v)
    | .error e => (.failed (.malformed e), v)

/-- All blocks of the current template are in the store. -/
def Sound (s : Session) : Prop := s.held.Known s.blocks

/-- Blocks that come into the store, and whatever the parser counts, are not seen. -/
theorem Sound.grow {s : Session} (h : s.Sound) (passed : Nat) {later : BlockStore}
    (hgrown : s.blocks <+: later) :
    { s with passed, blocks := later }.Sound ∧
      { s with passed, blocks := later }.view = s.view := by
  refine ⟨fun node hnode => (h node hnode).mono hgrown, ?_⟩
  rw [view, view, current, current]
  dsimp only
  rw [h.read_eq hgrown]

/-- A step of a session does what the step on values does. -/
structure Shows (result : Answer × Session) (expected : Answer × View) : Prop where
  sound : result.2.Sound
  answer : result.1 = expected.1
  view : result.2.view = expected.2

section
variable {s : Session}

theorem Sound.parse_shows (h : s.Sound) : Shows (s.step .parse) (s.view.step .parse) := by
  obtain ⟨hgrown, hread, hknown⟩ := parseObject_readsAs s.template ⟨s.passed, s.blocks⟩
  unfold Session.step View.step
  dsimp only
  cases hparsed : parseObject s.template ⟨s.passed, s.blocks⟩ with
  | mk outcome after =>
    rw [hparsed] at hgrown hread hknown
    cases outcome with
    | error e =>
      obtain ⟨hsound, hview⟩ := h.grow after.passed hgrown
      have hparse : SqlTemplate.parse s.view.template = .error e := hread.symm
      rw [hparse]
      exact ⟨hsound, rfl, hview⟩
    | ok parsed =>
      have hparse : SqlTemplate.parse s.view.template = .ok (parsed.read after.blocks) := hread.symm
      rw [hparse]
      exact ⟨hknown parsed rfl, rfl, rfl⟩

theorem Sound.inspect_shows (h : s.Sound) (template : Text) :
    Shows (s.step (.inspect template)) (s.view.step (.inspect template)) := by
  obtain ⟨hgrown, hread, -⟩ := parseObject_readsAs template ⟨0, s.blocks⟩
  unfold Session.step View.step
  dsimp only
  cases hparsed : parseObject template ⟨0, s.blocks⟩ with
  | mk outcome after =>
    rw [hparsed] at hgrown hread
    obtain ⟨hsound, hview⟩ := h.grow s.passed hgrown
    rw [← hread]
    cases outcome with
    | error e => exact ⟨hsound, rfl, hview⟩
    | ok parsed => exact ⟨hsound, rfl, hview⟩

theorem Sound.bind_shows (h : s.Sound) (args : Value) :
    Shows (s.step (.bind args)) (s.view.step (.bind args)) := by
  have hbind := @bindObject_readsAs s.mode _ _ args h
  unfold Session.step View.step
  dsimp only
  cases hbound : bindObject s.mode s.held args s.blocks with
  | mk outcome later =>
    rw [hbound] at hbind
    obtain ⟨hsound, hview⟩ := h.grow s.passed hbind.grown
    have hvalue : bindValue s.view.mode s.view.current args = _ := hbind.read.symm
    rw [hvalue]
    cases outcome with
    | error e => exact ⟨hsound, rfl, hview⟩
    | ok nodes => exact ⟨hsound, rfl, hview⟩

theorem Sound.build_shows (h : s.Sound) (template : Text) (args : Value) :
    Shows (s.step (.build template args)) (s.view.step (.build template args)) := by
  obtain ⟨hgrown, hread, hknown⟩ := parseObject_readsAs template ⟨0, s.blocks⟩
  unfold Session.step View.step buildQuery
  dsimp only
  cases hparsed : parseObject template ⟨0, s.blocks⟩ with
  | mk outcome after =>
    rw [hparsed] at hgrown hread hknown
    cases outcome with
    | error e =>
      obtain ⟨hsound, hview⟩ := h.grow s.passed hgrown
      have hparse : SqlTemplate.parse template = .error e := hread.symm
      rw [hparse]
      exact ⟨hsound, rfl, hview⟩
    | ok parsed =>
      have hparse : SqlTemplate.parse template = .ok (parsed.read after.blocks) := hread.symm
      have hbind := @bindObject_readsAs s.mode _ _ args (hknown parsed rfl)
      rw [hparse]
      cases hbound : bindObject s.mode parsed args after.blocks with
      | mk outcome later =>
        rw [hbound] at hbind
        obtain ⟨hsound, hview⟩ := h.grow s.passed (hgrown.trans hbind.grown)
        have hvalue : bindValue s.view.mode (parsed.read after.blocks) args = _ := hbind.read.symm
        dsimp only
        rw [hbound, hvalue]
        cases outcome with
        | error e => exact ⟨hsound, rfl, hview⟩
        | ok nodes => exact ⟨hsound, rfl, hview⟩

theorem Sound.step_shows (h : s.Sound) (step : Step) :
    Shows (s.step step) (s.view.step step) := by
  cases step with
  | parse => exact h.parse_shows
  | setTemplate template => exact ⟨h, rfl, rfl⟩
  | setMode mode => exact ⟨h, rfl, rfl⟩
  | bind args => exact h.bind_shows args
  | build template args => exact h.build_shows template args
  | inspect template => exact h.inspect_shows template

end

/-! Only a parse and the two settings can change what shows. -/

section
variable (v : View) (template : Text) (args : Value)

@[simp] theorem View.step_bind : (v.step (.bind args)).2 = v := by
  unfold View.step
  dsimp only
  cases bindValue v.mode v.current args <;> rfl

@[simp] theorem View.step_build : (v.step (.build template args)).2 = v := by
  unfold View.step
  dsimp only
  cases buildQuery v.mode template args <;> rfl

@[simp] theorem View.step_inspect : (v.step (.inspect template)).2 = v := by
  unfold View.step
  dsimp only
  cases SqlTemplate.parse template <;> rfl

end

/-- A step that fails on values changes none of them. -/
theorem View.step_of_failed {v : View} {step : Step} {cause : BuildError}
    (h : (v.step step).1 = .failed cause) : (v.step step).2 = v := by
  cases step with
  | setTemplate _ | setMode _ => cases h
  | parse =>
    unfold View.step at h ⊢
    dsimp only at h ⊢
    cases hparse : SqlTemplate.parse v.template with
    | error e => rfl
    | ok parsed =>
      rw [hparse] at h
      cases h
  | bind args => exact v.step_bind args
  | build template args => exact v.step_build template args
  | inspect template => exact v.step_inspect template

/-! A run of steps: what was set last, and what was parsed last. -/

/-- The session after some steps. -/
def after (s : Session) (steps : List Step) : Session :=
  steps.foldl (fun s step => (s.step step).2) s

/-- Each answer of a run is the step's answer in the session that the steps before it have left. -/
theorem getElem?_run (s : Session) (steps : List Step) (i : Nat) :
    (s.run steps)[i]? = steps[i]?.map (s.after (steps.take i)).step := by
  induction steps generalizing s i with
  | nil => rfl
  | cons step rest ih =>
    cases i with
    | zero => rfl
    | succ i => exact ih (s.step step).2 i

def Step.template? : Step → Option Text
  | .setTemplate template => some template
  | _ => none

def Step.mode? : Step → Option SkipMode
  | .setMode mode => some mode
  | _ => none

/-- What parsing gives for the template that is set at each step that parses. -/
def attempts (template : Text) : List Step → List (Except ParseError ParsedTemplate)
  | [] => []
  | .parse :: rest => SqlTemplate.parse template :: attempts template rest
  | .setTemplate other :: rest => attempts other rest
  | _ :: rest => attempts template rest

/-- The template and the mode that were set last, and the last template that parsed; without any,
the ones before the steps. -/
def View.after (v : View) (steps : List Step) : View where
  template := (steps.filterMap Step.template?).getLastD v.template
  mode := (steps.filterMap Step.mode?).getLastD v.mode
  current := ((attempts v.template steps).filterMap Except.toOption).getLastD v.current

/-- A step first changes what shows, and the rest goes on from there. -/
theorem View.after_cons (v : View) (step : Step) (rest : List Step) :
    v.after (step :: rest) = (v.step step).2.after rest := by
  cases step with
  | parse =>
    unfold View.step
    dsimp only
    cases hparse : SqlTemplate.parse v.template with
    | error e =>
      simp only [View.after, attempts, hparse, List.filterMap_cons, Step.template?, Step.mode?,
        Except.toOption]
    | ok parsed =>
      simp only [View.after, attempts, hparse, List.filterMap_cons, Step.template?, Step.mode?,
        Except.toOption, List.getLastD_cons]
  | setTemplate template =>
    simp only [View.after, View.step, attempts, List.filterMap_cons, Step.template?, Step.mode?,
      List.getLastD_cons]
  | setMode mode =>
    simp only [View.after, View.step, attempts, List.filterMap_cons, Step.template?, Step.mode?,
      List.getLastD_cons]
  | bind args =>
    rw [View.step_bind]
    rfl
  | build template args =>
    rw [View.step_build]
    rfl
  | inspect template =>
    rw [View.step_inspect]
    rfl

theorem Sound.after {s : Session} (h : s.Sound) (steps : List Step) :
    (s.after steps).Sound ∧ (s.after steps).view = s.view.after steps := by
  induction steps generalizing s with
  | nil => exact ⟨h, rfl⟩
  | cons step rest ih =>
    have hstep := h.step_shows step
    obtain ⟨hsound, hview⟩ := ih hstep.sound
    refine ⟨hsound, ?_⟩
    rw [View.after_cons, ← hstep.view]
    exact hview

/-- New objects that show the same: a parser that has not parsed yet, and in a store of its own the
template that was parsed last. -/
def fresh (v : View) : Session :=
  let (nodes, blocks) := NodeObject.ofNodes [] v.current.nodes
  ⟨v.template, 0, blocks, ⟨nodes, v.current.placeholderCount⟩, v.mode⟩

theorem sound_fresh (v : View) : (fresh v).Sound :=
  (NodeObject.ofNodes_readsAs [] v.current.nodes).known _ rfl

theorem view_fresh (v : View) : (fresh v).view = v := by
  have hread := (NodeObject.ofNodes_readsAs [] v.current.nodes).read
  rw [fresh, view, current, TemplateObject.read]
  dsimp only
  rw [Except.ok.inj hread]

/-- A session with nothing hidden: each step does to what shows what parsing, binding and building
values do, and so what it does to new objects that show the same; a step that fails changes nothing
that shows. -/
structure Stateless (s : Session) : Prop where
  shows : ∀ step, Shows (s.step step) (s.view.step step)
  answer : ∀ step, (s.step step).1 = ((fresh s.view).step step).1
  view : ∀ step, (s.step step).2.view = ((fresh s.view).step step).2.view
  failure : ∀ step cause, (s.step step).1 = .failed cause → (s.step step).2.view = s.view

theorem Sound.stateless {s : Session} (h : s.Sound) : s.Stateless := by
  have hfresh (step : Step) := (sound_fresh s.view).step_shows step
  simp only [view_fresh] at hfresh
  refine ⟨h.step_shows, ?_, ?_, ?_⟩
  · intro step
    rw [(h.step_shows step).answer, (hfresh step).answer]
  · intro step
    rw [(h.step_shows step).view, (hfresh step).view]
  · intro step cause hfailed
    rw [(h.step_shows step).answer] at hfailed
    rw [(h.step_shows step).view, View.step_of_failed hfailed]

/-- After any steps a session shows what was set last and what was parsed last, its answers are those
of parsing, binding and building what it shows, and it hides nothing that they could depend on. -/
theorem run_stateless (template : Text) (mode : SkipMode) (steps : List Step) :
    ((start template mode).after steps).view = View.after ⟨template, mode, .empty⟩ steps ∧
      ((start template mode).after steps).Stateless ∧
      ∀ i, ((start template mode).run steps)[i]? =
        steps[i]?.map ((start template mode).after (steps.take i)).step := by
  have hstart : (start template mode).Sound := nofun
  obtain ⟨hsound, hview⟩ := hstart.after steps
  exact ⟨hview, hsound.stateless, getElem?_run _ steps⟩

end SqlTemplate.Session
