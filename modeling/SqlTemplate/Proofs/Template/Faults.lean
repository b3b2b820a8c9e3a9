import SqlTemplate.Proofs.Outcome
import SqlTemplate.Proofs.Template.Scan
import SqlTemplate.Template.Parser

/-! Which templates are refused, and where. An automaton with two states looks at one character
after another and heeds nothing but braces; the parser refuses what the automaton refuses. -/
namespace SqlTemplate
namespace Braces

/-- Outside any block, or in the block that was opened at a position. -/
inductive State
  | outside
  | inside (opened : Nat)
  deriving DecidableEq, Repr

/-- What the character at a position does. A closing brace outside a block does nothing. -/
def step (position : Nat) (c : Char) : State → Except ParseError State
  | .outside => .ok (if c = '{' then .inside position else .outside)
  | .inside opened =>
    if c = '}' then .ok .outside
    else if c = '{' then .error ⟨.nestedBlock, position⟩
    else .ok (.inside opened)

/-- The state after a text that begins at a position, or the first fault in it. -/
def run (position : Nat) (state : State) : Text → Except ParseError State
  | [] => .ok state
  | c :: rest => step position c state >>= fun next => run (position + 1) next rest

/-- What the end of the text does. -/
def finish : State → Except ParseError Unit
  | .outside => .ok ()
  | .inside opened => .error ⟨.unterminatedBlock, opened⟩

/-- The run to the end of the text. -/
def verdict (position : Nat) (state : State) (text : Text) : Except ParseError Unit :=
  run position state text >>= finish

variable {position : Nat} {state : State} {text rest : Text}

theorem step_of_plain {c : Char} (h : c ≠ '{' ∧ c ≠ '}') : step position c state = .ok state := by
  cases state <;> simp [step, h]

theorem run_append : run position state (text ++ rest) =
    run position state text >>= fun next => run (position + text.length) next rest := by
  induction text generalizing position state with
  | nil => rfl
  | cons c text ih =>
    simp only [List.cons_append, run, bind_assoc]
    refine bind_congr fun next => ?_
    rw [ih, List.length_cons, Nat.add_right_comm, Nat.add_assoc]

/-- Text without braces changes nothing but the position. -/
theorem run_of_plain (h : ∀ c ∈ text, c ≠ '{' ∧ c ≠ '}') :
    run position state text = .ok state := by
  induction text generalizing position with
  | nil => rfl
  | cons c text ih =>
    obtain ⟨hc, htext⟩ := List.forall_mem_cons.mp h
    rw [run, step_of_plain hc]
    exact ih htext

theorem verdict_nil : verdict position state [] = finish state := rfl

theorem verdict_cons {c : Char} : verdict position state (c :: rest) =
    step position c state >>= fun next => verdict (position + 1) next rest := by
  simp only [verdict, run, bind_assoc]

theorem verdict_append : verdict position state (text ++ rest) =
    run position state text >>= fun next => verdict (position + text.length) next rest := by
  simp only [verdict, run_append, bind_assoc]

theorem verdict_append_of_plain (h : ∀ c ∈ text, c ≠ '{' ∧ c ≠ '}') :
    verdict position state (text ++ rest) = verdict (position + text.length) state rest := by
  rw [verdict_append, run_of_plain h]
  rfl

/-- A fault is at an opening brace: one of the text, or the one that opened the block in which the
text begins. -/
theorem opening_of_verdict {e : ParseError} (h : verdict position state text = .error e) :
    state = .inside e.position ∨
      position ≤ e.position ∧ text[e.position - position]? = some '{' := by
  induction text generalizing position state with
  | nil =>
    cases state with
    | outside => cases h
    | inside opened =>
      cases h
      exact .inl rfl
  | cons c text ih =>
    rw [verdict_cons] at h
    -- A block that this character opens is in the text by now, one that was open before is not.
    have hlater : ∀ {next}, verdict (position + 1) next text = .error e →
        next = .inside e.position ∨
          position ≤ e.position ∧ (c :: text)[e.position - position]? = some '{' := by
      intro next hnext
      refine (ih hnext).imp_right ?_
      rintro ⟨hle, hget⟩
      have hindex : e.position - position = e.position - (position + 1) + 1 := by omega
      exact ⟨by omega, by rw [hindex, List.getElem?_cons_succ, hget]⟩
    cases state with
    | outside =>
      rcases hlater h with hnext | hfound
      · by_cases hc : c = '{'
        · rw [if_pos hc] at hnext
          cases hnext
          exact .inr ⟨Nat.le_refl _, by simp [hc]⟩
        · rw [if_neg hc] at hnext
          cases hnext
      · exact .inr hfound
    | inside opened =>
      rw [step] at h
      split at h
      · rcases hlater h with hnext | hfound
        · cases hnext
        · exact .inr hfound
      · split at h
        · next hc =>
          cases h
          exact .inr ⟨Nat.le_refl _, by simp [hc]⟩
        · exact hlater h

def State.inBlock : State → Bool
  | .outside => false
  | .inside _ => true

/-- Whether there is a fault hangs neither on the position nor on where the block was opened. -/
theorem verdict_ok_iff_of_inBlock_eq {other : State} (h : state.inBlock = other.inBlock)
    (place : Nat) : verdict position state text = .ok () ↔ verdict place other text = .ok () := by
  induction text generalizing position state place other with
  | nil => cases state <;> cases other <;> simp_all [State.inBlock, verdict_nil, finish]
  | cons c text ih =>
    rw [verdict_cons, verdict_cons]
    match state, other with
    | .outside, .outside =>
      refine ih ?_ _
      split <;> rfl
    | .inside opened, .inside before =>
      simp only [step]
      split
      · exact ih rfl _
      · split
        · simp [bind, Except.bind]
        · refine ih ?_ _
          rfl
    | .outside, .inside _ | .inside _, .outside => cases h

end Braces

namespace Token

theorem plain_of_mem_text {s : Specifier} {c : Char} (h : c ∈ s.token) : c ≠ '{' ∧ c ≠ '}' := by
  constructor
  · rintro rfl
    exact s.opening_not_mem_token h
  · rintro rfl
    exact s.closing_not_mem_token h

end Token

namespace Parser

/-- The parser over tokens and the automaton over their text come to the same verdict. -/
theorem verdict_of_outside_and_inside {ts : List Token} (hs : Token.Scanned ts) :
    (∀ position, (fun _ => ()) <$> outside position ts =
      Braces.verdict position .outside (ts.flatMap Token.text)) ∧
    (∀ start position, (fun _ => ()) <$> inside start position ts =
      Braces.verdict position (.inside start) (ts.flatMap Token.text)) := by
  induction ts with
  | nil => exact ⟨fun _ => rfl, fun _ _ => rfl⟩
  | cons token rest ih =>
    obtain ⟨ihOutside, ihInside⟩ := ih hs.tail
    cases token with
    | char c =>
      have hc := hs.head_char.2
      constructor
      · intro position
        rw [List.flatMap_cons, Token.text, List.singleton_append, Braces.verdict_cons,
          Braces.step_of_plain hc, outside, Functor.map_map]
        exact ihOutside _
      · intro start position
        rw [List.flatMap_cons, Token.text, List.singleton_append, Braces.verdict_cons,
          Braces.step_of_plain hc, inside, Functor.map_map]
        exact ihInside _ _
    | placeholder s =>
      have hs := fun c => Token.plain_of_mem_text (s := s) (c := c)
      constructor
      · intro position
        rw [List.flatMap_cons, Token.text, Braces.verdict_append_of_plain hs, outside,
          Functor.map_map]
        exact ihOutside _
      · intro start position
        rw [List.flatMap_cons, Token.text, Braces.verdict_append_of_plain hs, inside,
          Functor.map_map]
        exact ihInside _ _
    | opening =>
      constructor
      · intro position
        rw [List.flatMap_cons, Token.text, List.singleton_append, Braces.verdict_cons, outside,
          Functor.map_map]
        exact ihInside _ _
      · exact fun _ _ => rfl
    | closing =>
      constructor
      · intro position
        rw [List.flatMap_cons, Token.text, List.singleton_append, Braces.verdict_cons, outside,
          Functor.map_map]
        exact ihOutside _
      · intro start position
        rw [List.flatMap_cons, Token.text, List.singleton_append, Braces.verdict_cons, inside,
          Functor.map_map]
        exact ihOutside _

end Parser

theorem map_parse_eq_verdict (t : Text) :
    (fun _ => ()) <$> parse t = Braces.verdict 0 .outside t := by
  have hverdict := (Parser.verdict_of_outside_and_inside (Token.scanned_ofText t)).1 0
  rw [Token.flatMap_text_ofText] at hverdict
  rw [← hverdict, parse, Functor.map_map]

theorem exists_parse_ok_iff (t : Text) :
    (∃ p, parse t = .ok p) ↔ Braces.verdict 0 .outside t = .ok () := by
  rw [← map_parse_eq_verdict, Outcome.map_eq_ok_iff]
  simp

/-- Where the template that is accepted ends, no block is open. -/
theorem exists_parse_ok_iff_run (t : Text) :
    (∃ p, parse t = .ok p) ↔ Braces.run 0 .outside t = .ok .outside := by
  rw [exists_parse_ok_iff, Braces.verdict]
  match Braces.run 0 .outside t with
  | .error e => simp
  | .ok .outside => simp [Braces.finish]
  | .ok (.inside opened) => simp [Braces.finish]

/-- Text without braces between two parts of a template makes no difference to whether it is
accepted. -/
theorem exists_parse_ok_iff_of_plain {pre inner post : Text}
    (h : ∀ c ∈ inner, c ≠ '{' ∧ c ≠ '}') :
    (∃ p, parse (pre ++ inner ++ post) = .ok p) ↔
      (Braces.run 0 .outside pre >>= fun next => Braces.verdict 0 next post) = .ok () := by
  rw [exists_parse_ok_iff, List.append_assoc, Braces.verdict_append]
  cases Braces.run 0 .outside pre with
  | error e => exact Iff.rfl
  | ok next =>
    rw [Outcome.ok_bind, Outcome.ok_bind, Braces.verdict_append_of_plain h]
    exact Braces.verdict_ok_iff_of_inBlock_eq rfl 0

/-- A template is refused exactly when the automaton finds a fault in its braces. The error is the
first fault, and its position is that of an opening brace of the template. -/
theorem parse_refused_iff_verdict (t : Text) :
    ((∃ p, parse t = .ok p) ↔ Braces.verdict 0 .outside t = .ok ()) ∧
    (∀ e, parse t = .error e ↔ Braces.verdict 0 .outside t = .error e) ∧
    ∀ e, parse t = .error e → t[e.position]? = some '{' := by
  have herror : ∀ e, parse t = .error e ↔ Braces.verdict 0 .outside t = .error e := by
    intro e
    rw [← map_parse_eq_verdict, Outcome.map_eq_error_iff]
  refine ⟨exists_parse_ok_iff t, herror, ?_⟩
  intro e h
  rcases Braces.opening_of_verdict ((herror e).mp h) with houtside | ⟨-, hget⟩
  · cases houtside
  · exact hget

/-- Both faults are there, and the nested block comes first. The closing brace before it is literal
text. -/
theorem parse_refused_iff_verdict_nested :
    parse ['?', 'd', '}', '{', '?', '{', '{'] = .error ⟨.nestedBlock, 5⟩ ∧
      ['?', 'd', '}', '{', '?', '{', '{'][5]? = some '{' := by
  obtain ⟨-, herror, hposition⟩ := parse_refused_iff_verdict ['?', 'd', '}', '{', '?', '{', '{']
  have hnested := (herror ⟨.nestedBlock, 5⟩).mpr rfl
  exact ⟨hnested, hposition _ hnested⟩

end SqlTemplate
