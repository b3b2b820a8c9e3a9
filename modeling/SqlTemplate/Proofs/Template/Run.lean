import SqlTemplate.Proofs.Outcome
import SqlTemplate.Template.Parser

/-! The runs of the parser that succeed, step after step. They do not look at positions, which only
the errors of the parser hang on. -/
namespace SqlTemplate.Parser

/-- A run over tokens to their end. It begins outside any block, or in a block that is open and has
some children still to come. -/
inductive Run : Option (List Fragment) → List Token → List Node → Prop
  | done : Run none [] []
  | char {c : Char} {ts : List Token} {nodes : List Node} (later : Run none ts nodes) :
      Run none (.char c :: ts) (Node.pushChar c nodes)
  | brace {ts : List Token} {nodes : List Node} (later : Run none ts nodes) :
      Run none (.closing :: ts) (Node.pushChar '}' nodes)
  | placeholder {s : Specifier} {ts : List Token} {nodes : List Node}
      (later : Run none ts nodes) :
      Run none (.placeholder s :: ts) (.fragment (.placeholder s) :: nodes)
  | opening {children : List Fragment} {ts : List Token} {nodes : List Node}
      (later : Run (some children) ts nodes) :
      Run none (.opening :: ts) (.block children :: nodes)
  | innerChar {c : Char} {children : List Fragment} {ts : List Token} {nodes : List Node}
      (later : Run (some children) ts nodes) :
      Run (some (Fragment.pushChar c children)) (.char c :: ts) nodes
  | innerPlaceholder {s : Specifier} {children : List Fragment} {ts : List Token}
      {nodes : List Node} (later : Run (some children) ts nodes) :
      Run (some (.placeholder s :: children)) (.placeholder s :: ts) nodes
  | closing {ts : List Token} {nodes : List Node} (later : Run none ts nodes) :
      Run (some []) (.closing :: ts) nodes

theorem run_of_outside_and_inside (ts : List Token) :
    (∀ position nodes, outside position ts = .ok nodes → Run none ts nodes) ∧
    (∀ start position children nodes, inside start position ts = .ok (children, nodes) →
      Run (some children) ts nodes) := by
  -- One induction for both halves, since a brace leads from the one to the other.
  induction ts with
  | nil =>
    constructor
    · rintro position nodes ⟨⟩
      exact .done
    · rintro start position children nodes ⟨⟩
  | cons token rest ih =>
    obtain ⟨ihOutside, ihInside⟩ := ih
    cases token with
    | char c =>
      constructor
      · intro position nodes h
        obtain ⟨later, hlater, rfl⟩ := Outcome.map_eq_ok_iff.mp h
        exact .char (ihOutside _ _ hlater)
      · intro start position children nodes h
        obtain ⟨⟨others, later⟩, hlater, ⟨⟩⟩ := Outcome.map_eq_ok_iff.mp h
        exact .innerChar (ihInside _ _ _ _ hlater)
    | placeholder s =>
      constructor
      · intro position nodes h
        obtain ⟨later, hlater, rfl⟩ := Outcome.map_eq_ok_iff.mp h
        exact .placeholder (ihOutside _ _ hlater)
      · intro start position children nodes h
        obtain ⟨⟨others, later⟩, hlater, ⟨⟩⟩ := Outcome.map_eq_ok_iff.mp h
        exact .innerPlaceholder (ihInside _ _ _ _ hlater)
    | opening =>
      constructor
      · intro position nodes h
        obtain ⟨⟨children, later⟩, hlater, rfl⟩ := Outcome.map_eq_ok_iff.mp h
        exact .opening (ihInside _ _ _ _ hlater)
      · rintro start position children nodes ⟨⟩
    | closing =>
      constructor
      · intro position nodes h
        obtain ⟨later, hlater, rfl⟩ := Outcome.map_eq_ok_iff.mp h
        exact .brace (ihOutside _ _ hlater)
      · intro start position children nodes h
        obtain ⟨later, hlater, ⟨⟩⟩ := Outcome.map_eq_ok_iff.mp h
        exact .closing (ihOutside _ _ hlater)

/-- The parser comes to what a run comes to, wherever the tokens stand. -/
theorem Run.eq_ok {body : Option (List Fragment)} {ts : List Token} {nodes : List Node} :
    Run body ts nodes →
      match body with
      | none => ∀ position, outside position ts = .ok nodes
      | some children => ∀ start position,
        inside start position ts = .ok (children, nodes) := by
  intro h
  induction h with
  | done => exact fun _ => rfl
  | char _ ih | brace _ ih | placeholder _ ih | opening _ ih =>
    intro position
    rw [outside, ih, Except.map_ok]
  | innerChar _ ih | innerPlaceholder _ ih | closing _ ih =>
    intro start position
    rw [inside, ih, Except.map_ok]

theorem outside_eq_ok_iff {position : Nat} {ts : List Token} {nodes : List Node} :
    outside position ts = .ok nodes ↔ Run none ts nodes :=
  ⟨(run_of_outside_and_inside ts).1 position nodes, fun h => h.eq_ok position⟩

theorem Run.unique {ts : List Token} {nodes others : List Node} (h : Run none ts nodes)
    (hother : Run none ts others) : nodes = others :=
  Except.ok.inj ((h.eq_ok 0).symm.trans (hother.eq_ok 0))

theorem run_of_parse {t : Text} {p : ParsedTemplate} (h : parse t = .ok p) :
    Run none (Token.ofText t) p.nodes := by
  obtain ⟨nodes, hnodes, rfl⟩ := Outcome.map_eq_ok_iff.mp h
  exact outside_eq_ok_iff.mp hnodes

end SqlTemplate.Parser
