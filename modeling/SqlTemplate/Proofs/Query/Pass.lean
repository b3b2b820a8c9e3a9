import SqlTemplate.Proofs.Binding.Step
import SqlTemplate.Proofs.Template.RoundTrip

/-! A query built in one pass over the tokens of its template, in consuming mode. There is no tree
and no second look at a block: its text is held back until it closes, and once it is dropped its
other placeholders pass over one argument each. -/
namespace SqlTemplate

/-- Outside any block, in a block with the text it has so far, or in a block that is dropped. -/
inductive Place
  | outside
  | kept (inner : Text)
  | dropped

/-- Where a pass stands, the text that is sure to be in the query, and the arguments not yet read. -/
structure Pass where
  place : Place
  written : Text
  left : List Value

/-- The text of an argument, or the refusal as an error of binding. -/
def argumentText (s : Specifier) (arg : Value) : Except BindError Text :=
  (formatValue s arg).mapError .format

namespace Pass

/-- Text goes into the block that is open; a dropped block takes none. -/
def put (text : Text) : Pass → Pass
  | ⟨.outside, written, left⟩ => ⟨.outside, written ++ text, left⟩
  | ⟨.kept inner, written, left⟩ => ⟨.kept (inner ++ text), written, left⟩
  | ⟨.dropped, written, left⟩ => ⟨.dropped, written, left⟩

/-- A placeholder reads one argument, in a dropped block without a look at it. -/
def take (s : Specifier) : Pass → Except BindError Pass
  | ⟨.dropped, written, left⟩ => .ok ⟨.dropped, written, left.tail⟩
  | ⟨.outside, _, []⟩ => .error .outOfArguments
  | ⟨.kept _, _, []⟩ => .error .outOfArguments
  | ⟨.outside, written, arg :: left⟩ => (put · ⟨.outside, written, left⟩) <$> argumentText s arg
  | ⟨.kept inner, written, arg :: left⟩ =>
    if arg.needsSkip then .ok ⟨.dropped, written, left⟩
    else (put · ⟨.kept inner, written, left⟩) <$> argumentText s arg

/-- The block that is open ends; outside any block the brace is text. -/
def close : Pass → Pass
  | ⟨.outside, written, left⟩ => ⟨.outside, written ++ ['}'], left⟩
  | ⟨.kept inner, written, left⟩ => ⟨.outside, written ++ inner, left⟩
  | ⟨.dropped, written, left⟩ => ⟨.outside, written, left⟩

def step (p : Pass) : Token → Except BindError Pass
  | .char c => .ok (p.put [c])
  | .placeholder s => p.take s
  | .opening => .ok { p with place := .kept [] }
  | .closing => .ok p.close

def run (p : Pass) : List Token → Except BindError Pass
  | [] => .ok p
  | token :: rest => p.step token >>= fun next => next.run rest

theorem run_append (p : Pass) (ts us : List Token) :
    p.run (ts ++ us) = p.run ts >>= fun next => next.run us := by
  induction ts generalizing p with
  | nil => rfl
  | cons token ts ih => simp only [List.cons_append, run, bind_assoc, ih]

@[simp] theorem put_nil (p : Pass) : p.put [] = p := by
  obtain ⟨place, written, left⟩ := p
  cases place <;> simp [put]

@[simp] theorem put_put (p : Pass) (s t : Text) : (p.put s).put t = p.put (s ++ t) := by
  obtain ⟨place, written, left⟩ := p
  cases place <;> simp [put]

/-! What a pass over the tokens of a tree comes to, in terms of the tree. -/

/-- The pass after nodes, from outside any block. -/
def afterNodes (nodes : List Node) (written : Text) (args : List Value) : Except BindError Pass :=
  (fun r => ⟨.outside, written ++ serialize r.1, r.2⟩) <$> bindNodes .consume nodes args

/-- The pass after the rest of a block and nodes, from inside a block that is kept so far. -/
def afterBlock (children : List Fragment) (nodes : List Node) (inner written : Text)
    (args : List Value) : Except BindError Pass :=
  bindBlock .consume children args >>= fun r =>
    afterNodes nodes
      (written ++ (r.1.map fun bound => inner ++ bound.flatMap Fragment.text).getD []) r.2

section
variable {nodes : List Node} {children : List Fragment} {inner written : Text} {args : List Value}

theorem afterNodes_nil : afterNodes [] written args = .ok ⟨.outside, written, args⟩ := by
  simp [afterNodes, bindNodes, serialize]

theorem afterNodes_literal {text : Text} :
    afterNodes (.fragment (.literal text) :: nodes) written args =
      afterNodes nodes (written ++ text) args := by
  simp only [afterNodes, bindNodes, Functor.map_map]
  refine congrArg (· <$> _) (funext fun r => ?_)
  simp [serialize, Node.text, Fragment.text]

theorem afterNodes_pushChar (c : Char) :
    afterNodes (Node.pushChar c nodes) written args = afterNodes nodes (written ++ [c]) args := by
  rcases Node.pushChar_cases c nodes with ⟨text, others, rfl, heq⟩ | ⟨-, heq⟩
  · rw [heq, afterNodes_literal, afterNodes_literal, List.append_assoc, List.singleton_append]
  · rw [heq, afterNodes_literal]

theorem afterNodes_placeholder {s : Specifier} {arg : Value} :
    afterNodes (.fragment (.placeholder s) :: nodes) written (arg :: args) =
      argumentText s arg >>= fun text => afterNodes nodes (written ++ text) args := by
  rw [afterNodes, argumentText]
  cases htext : formatValue s arg with
  | error cause => rw [BindNodes.step_error htext]; rfl
  | ok text =>
    rw [BindNodes.step_text htext, Functor.map_map]
    refine congrArg (· <$> _) (funext fun r => ?_)
    simp [serialize, Node.text, Fragment.text]

theorem afterNodes_block :
    afterNodes (.block children :: nodes) written args =
      afterBlock children nodes [] written args := by
  rw [afterNodes, afterBlock]
  cases hblock : bindBlock .consume children args with
  | error e => rw [BindNodes.step_block_error hblock]; rfl
  | ok r =>
    obtain ⟨kept, left⟩ := r
    rw [BindNodes.step_block hblock, Functor.map_map]
    refine congrArg (· <$> _) (funext fun r => ?_)
    cases kept <;> simp [keptNode, serialize, Node.text]

theorem afterBlock_nil :
    afterBlock [] nodes inner written args = afterNodes nodes (written ++ inner) args := by
  simp [afterBlock, bindBlock]

theorem afterBlock_literal {text : Text} :
    afterBlock (.literal text :: children) nodes inner written args =
      afterBlock children nodes (inner ++ text) written args := by
  simp only [afterBlock, bindBlock, map_eq_bind_pure_comp, bind_assoc, Function.comp_def, pure_bind]
  refine bind_congr fun r => ?_
  cases r.1 <;> simp [Fragment.text]

theorem afterBlock_pushChar (c : Char) :
    afterBlock (Fragment.pushChar c children) nodes inner written args =
      afterBlock children nodes (inner ++ [c]) written args := by
  rcases Fragment.pushChar_cases c children with ⟨text, others, rfl, heq⟩ | ⟨-, heq⟩
  · rw [heq, afterBlock_literal, afterBlock_literal, List.append_assoc, List.singleton_append]
  · rw [heq, afterBlock_literal]

theorem afterBlock_placeholder_skip {s : Specifier} {arg : Value} (h : arg.needsSkip = true) :
    afterBlock (.placeholder s :: children) nodes inner written (arg :: args) =
      afterNodes nodes written (args.drop (Fragment.placeholderCount children)) := by
  simp [afterBlock, BindBlock.step_skip h, SkipMode.afterDrop]

theorem afterBlock_placeholder {s : Specifier} {arg : Value} (h : ¬ arg.needsSkip = true) :
    afterBlock (.placeholder s :: children) nodes inner written (arg :: args) =
      argumentText s arg >>= fun text =>
        afterBlock children nodes (inner ++ text) written args := by
  rw [afterBlock, argumentText]
  cases htext : formatValue s arg with
  | error cause => rw [BindBlock.step_error h htext]; rfl
  | ok text =>
    have hliteral : afterBlock (.literal text :: children) nodes inner written args =
      afterBlock children nodes (inner ++ text) written args := afterBlock_literal
    rw [afterBlock, bindBlock] at hliteral
    rw [BindBlock.step_text h htext, hliteral]
    rfl

end

/-- A pass over the tokens of a template does what binding does to its nodes, from each place that
it can stand at. -/
theorem run_eq_after {body : Option (List Fragment)} {ts : List Token} {nodes : List Node} :
    Parser.Run body ts nodes → ∀ (written : Text) (args : List Value),
      match body with
      | none => run ⟨.outside, written, args⟩ ts = afterNodes nodes written args
      | some children =>
        (∀ inner, run ⟨.kept inner, written, args⟩ ts =
          afterBlock children nodes inner written args) ∧
        run ⟨.dropped, written, args⟩ ts =
          afterNodes nodes written (args.drop (Fragment.placeholderCount children)) := by
  intro h written args
  induction h generalizing written args with
  | done => exact afterNodes_nil.symm
  | char _ ih | brace _ ih =>
    rw [afterNodes_pushChar]
    exact ih _ _
  | placeholder _ ih =>
    cases args with
    | nil => rfl
    | cons arg args =>
      rw [afterNodes_placeholder, run, step, take, map_eq_bind_pure_comp, bind_assoc]
      exact bind_congr fun text => ih _ _
  | opening _ ih =>
    rw [afterNodes_block]
    exact (ih written args).1 []
  | innerChar _ ih =>
    obtain ⟨hkept, hdropped⟩ := ih written args
    constructor
    · intro inner
      rw [afterBlock_pushChar]
      exact hkept _
    · rw [Fragment.placeholderCount_pushChar]
      exact hdropped
  | innerPlaceholder _ ih =>
    constructor
    · intro inner
      cases args with
      | nil => rfl
      | cons arg args =>
        obtain ⟨hkept, hdropped⟩ := ih written args
        by_cases hskip : arg.needsSkip
        · rw [afterBlock_placeholder_skip hskip, run, step, take, if_pos hskip]
          exact hdropped
        · rw [afterBlock_placeholder hskip, run, step, take, if_neg hskip,
            map_eq_bind_pure_comp, bind_assoc]
          exact bind_congr fun text => hkept _
    · rw [Fragment.placeholderCount_placeholder, Nat.add_comm, ← List.drop_drop, List.drop_one]
      exact (ih written args.tail).2
  | closing _ ih =>
    refine ⟨fun inner => ?_, ih written args⟩
    rw [afterBlock_nil]
    exact ih _ _

/-! Arguments after those that the placeholders of a list of tokens take are left alone. -/

/-- The pass with other arguments to read. -/
def withLeft (left : List Value) (p : Pass) : Pass := { p with left }

theorem put_withLeft (left : List Value) (text : Text) (p : Pass) :
    (p.withLeft left).put text = (p.put text).withLeft left := by
  obtain ⟨place, written, _⟩ := p
  cases place <;> rfl

@[simp] theorem left_put (text : Text) (p : Pass) : (p.put text).left = p.left := by
  obtain ⟨place, written, left⟩ := p
  cases place <;> rfl

/-- The pass with more arguments at the end. -/
def more (extra : List Value) (p : Pass) : Pass := p.withLeft (p.left ++ extra)

theorem take_more (extra : List Value) {s : Specifier} {p : Pass} (h : p.left ≠ []) :
    (p.more extra).take s = more extra <$> p.take s := by
  obtain ⟨place, written, _ | ⟨arg, left⟩⟩ := p
  · exact (h rfl).elim
  · match place with
    | .outside =>
      simp only [more, withLeft, take, List.cons_append, Functor.map_map]
      rfl
    | .kept inner =>
      simp only [more, withLeft, take, List.cons_append]
      split
      · rfl
      · rw [Functor.map_map]
        rfl
    | .dropped => rfl

theorem length_left_take {s : Specifier} {p next : Pass} (h : p.left ≠ [])
    (hnext : p.take s = .ok next) : next.left.length + 1 = p.left.length := by
  obtain ⟨place, written, _ | ⟨arg, left⟩⟩ := p
  · exact (h rfl).elim
  · match place with
    | .outside =>
      obtain ⟨text, -, rfl⟩ := Outcome.map_eq_ok_iff.mp hnext
      rfl
    | .kept inner =>
      rw [take] at hnext
      split at hnext
      · cases hnext
        rfl
      · obtain ⟨text, -, rfl⟩ := Outcome.map_eq_ok_iff.mp hnext
        rfl
    | .dropped =>
      cases hnext
      rfl

theorem step_more (extra : List Value) (token : Token) (p : Pass)
    (h : [token].countP Token.isPlaceholder ≤ p.left.length) :
    (p.more extra).step token = more extra <$> p.step token ∧
      ∀ next, p.step token = .ok next →
        next.left.length + [token].countP Token.isPlaceholder = p.left.length := by
  cases token with
  | char c =>
    constructor
    · rw [step, more, put_withLeft, step, Except.map_ok, more, left_put]
    · rintro next ⟨⟩
      rw [left_put]
      rfl
  | placeholder s =>
    have hleft : p.left ≠ [] := List.length_pos_iff.mp h
    exact ⟨take_more extra hleft, fun next hnext => length_left_take hleft hnext⟩
  | opening =>
    refine ⟨rfl, ?_⟩
    rintro next ⟨⟩
    rfl
  | closing =>
    obtain ⟨place, written, left⟩ := p
    cases place <;> refine ⟨rfl, ?_⟩ <;> rintro next ⟨⟩ <;> rfl

theorem run_more (extra : List Value) {ts : List Token} {p : Pass}
    (h : ts.countP Token.isPlaceholder ≤ p.left.length) :
    (p.more extra).run ts = more extra <$> p.run ts ∧
      ∀ last, p.run ts = .ok last →
        last.left.length + ts.countP Token.isPlaceholder = p.left.length := by
  induction ts generalizing p with
  | nil =>
    refine ⟨rfl, ?_⟩
    rintro last ⟨⟩
    rfl
  | cons token rest ih =>
    have hcount : (token :: rest).countP Token.isPlaceholder =
        [token].countP Token.isPlaceholder + rest.countP Token.isPlaceholder := by
      rw [← List.countP_append, List.singleton_append]
    rw [hcount] at h ⊢
    obtain ⟨hstep, hlength⟩ := step_more extra token p (by omega)
    simp only [run, hstep]
    cases hnext : p.step token with
    | error e => exact ⟨rfl, nofun⟩
    | ok next =>
      have hleft := hlength next hnext
      obtain ⟨hrun, hlast⟩ := ih (p := next) (by omega)
      refine ⟨hrun, fun last h => ?_⟩
      have := hlast last h
      omega

/-- Tokens take one argument for each placeholder and leave the others. -/
theorem run_args_append {ts : List Token} {args : List Value}
    (h : args.length = ts.countP Token.isPlaceholder) (place : Place) (written : Text)
    (extra : List Value) :
    run ⟨place, written, args ++ extra⟩ ts = withLeft extra <$> run ⟨place, written, args⟩ ts := by
  obtain ⟨hrun, hlast⟩ := run_more extra (p := ⟨place, written, args⟩) (Nat.le_of_eq h.symm)
  refine hrun.trans ?_
  cases hresult : run ⟨place, written, args⟩ ts with
  | error e => rfl
  | ok last =>
    have hlength := hlast last hresult
    have hleft : last.left = [] := List.length_eq_zero_iff.mp (by dsimp only at hlength; omega)
    rw [Except.map_ok, Except.map_ok, more, hleft, List.nil_append]

end Pass

theorem run_ofText_of_parse {t : Text} {p : ParsedTemplate} (h : parse t = .ok p) (written : Text)
    (args : List Value) :
    Pass.run ⟨.outside, written, args⟩ (Token.ofText t) =
      Pass.afterNodes p.nodes written args :=
  Pass.run_eq_after (Parser.run_of_parse h) written args

/-- In consuming mode a query is what one pass over the tokens of its template writes. -/
theorem buildQuery_eq_pass {t : Text} {p : ParsedTemplate} {args : List Value}
    (h : parse t = .ok p) (hcount : p.placeholderCount = args.length) :
    buildQuery .consume t (.list args) =
      (Pass.written <$> Pass.run ⟨.outside, [], args⟩ (Token.ofText t)).mapError .bind := by
  rw [run_ofText_of_parse h, Pass.afterNodes]
  simp only [buildQuery, h, bindValue_list hcount]
  cases bindNodes .consume p.nodes args <;> rfl

end SqlTemplate
