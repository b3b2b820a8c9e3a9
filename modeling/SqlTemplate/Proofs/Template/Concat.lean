import SqlTemplate.Proofs.Template.Counts
import SqlTemplate.Proofs.Template.Faults

/-! Two templates written one after the other. Whether the whole is accepted, and where it has a
fault, is for the second one to say; the nodes are those of the first and then those of the second,
with the literals that meet made one. -/
namespace SqlTemplate

/-- The error of a text that stands after `k` other characters. -/
def ParseError.shift (k : Nat) (e : ParseError) : ParseError := ⟨e.fault, k + e.position⟩

namespace Braces

def State.shift (k : Nat) : State → State
  | .outside => .outside
  | .inside opened => .inside (k + opened)

variable {position : Nat} {state : State}

theorem step_shift (k : Nat) (c : Char) : step (k + position) c (state.shift k) =
    State.shift k <$> (step position c state).mapError (.shift k) := by
  cases state with
  | outside =>
    rw [State.shift, step, step]
    split <;> rfl
  | inside opened =>
    rw [State.shift, step, step]
    split
    · rfl
    · split <;> rfl

/-- Characters in front of a text move its faults and change nothing else. -/
theorem verdict_shift (k : Nat) (text : Text) : verdict (k + position) (state.shift k) text =
    (verdict position state text).mapError (.shift k) := by
  induction text generalizing position state with
  | nil => cases state <;> rfl
  | cons c text ih =>
    rw [verdict_cons, verdict_cons, step_shift]
    cases step position c state with
    | error e => rfl
    | ok next => exact @ih (position + 1) next

end Braces

/-- After a template that is accepted, a text has the faults that it has alone. -/
theorem map_parse_append {s t : Text} (hs : ∃ p, parse s = .ok p) :
    (fun _ => ()) <$> parse (s ++ t) =
      ((fun _ => ()) <$> parse t).mapError (.shift s.length) := by
  rw [exists_parse_ok_iff_run] at hs
  rw [map_parse_eq_verdict, map_parse_eq_verdict, Braces.verdict_append, hs, Outcome.ok_bind,
    Nat.zero_add]
  exact @Braces.verdict_shift 0 .outside s.length t

theorem exists_parse_append {s t : Text} (hs : ∃ p, parse s = .ok p) (ht : ∃ q, parse t = .ok q) :
    ∃ r, parse (s ++ t) = .ok r := by
  obtain ⟨q, ht⟩ := ht
  have happend := map_parse_append (t := t) hs
  rw [ht] at happend
  obtain ⟨r, hr, -⟩ := Outcome.map_eq_ok_iff.mp happend
  exact ⟨r, hr⟩

theorem parse_append_eq_error {s t : Text} (hs : ∃ p, parse s = .ok p) {e : ParseError}
    (ht : parse t = .error e) : parse (s ++ t) = .error (e.shift s.length) := by
  have happend := map_parse_append (t := t) hs
  rw [ht] at happend
  exact Outcome.map_eq_error_iff.mp happend

/-- No placeholder at the end of the first text takes a letter from the second. -/
theorem ofText_append_of_seam {s t : Text}
    (hseam : s.getLast? = some '?' → ∀ c ∈ t.head?, c ∉ ['d', 'f', 'a', '#']) :
    Token.ofText (s ++ t) = Token.ofText s ++ Token.ofText t :=
  Token.ofText_append fun hlast c hc => Specifier.ofLetter?_eq_none_iff.mpr (hseam hlast c hc)

namespace Node

/-- Nodes one after the other. A literal that ends the first ones and a literal that starts the
others are made one. -/
def fuse (first second : List Node) : List Node :=
  match first.getLast?, second with
  | some (.fragment (.literal text)), .fragment (.literal more) :: later =>
    first.dropLast ++ .fragment (.literal (text ++ more)) :: later
  | _, _ => first ++ second

@[simp] theorem fuse_nil (second : List Node) : fuse [] second = second := rfl

/-- Literals meet only where the first nodes end. -/
theorem fuse_cons_cons (node next : Node) (rest second : List Node) :
    fuse (node :: next :: rest) second = node :: fuse (next :: rest) second := by
  unfold fuse
  rw [List.getLast?_cons_cons]
  split <;> rfl

theorem fuse_cons_of_not_literal {node : Node} (h : ∀ text, node ≠ .fragment (.literal text))
    (rest second : List Node) : fuse (node :: rest) second = node :: fuse rest second := by
  cases rest with
  | cons next rest => exact fuse_cons_cons node next rest second
  | nil =>
    match node with
    | .fragment (.literal text) => exact (h text rfl).elim
    | .fragment (.placeholder _) | .block _ => rfl

/-- What is put in front goes into the first of the nodes, or before it. -/
theorem pushChar_fuse (c : Char) (first second : List Node) :
    pushChar c (fuse first second) = fuse (pushChar c first) second := by
  rcases pushChar_cases c first with ⟨text, rest, rfl, heq⟩ | ⟨hnext, heq⟩
  · rw [heq]
    cases rest with
    | cons next rest =>
      rw [fuse_cons_cons, fuse_cons_cons]
      rfl
    | nil =>
      match second with
      | [] | .fragment (.literal _) :: _ | .fragment (.placeholder _) :: _ | .block _ :: _ => rfl
  · rw [heq]
    cases first with
    | cons node rest =>
      have hnode := hnext node rfl
      rw [fuse_cons_cons, fuse_cons_of_not_literal hnode]
      refine pushChar_of_not_literal ?_
      rintro _ ⟨⟩
      exact hnode
    | nil =>
      match second with
      | [] | .fragment (.literal _) :: _ | .fragment (.placeholder _) :: _ | .block _ :: _ => rfl

end Node

/-- A run goes on with the tokens after it. A block that the first tokens open they close as well,
so only literals outside any block can meet. -/
theorem Parser.Run.append {body : Option (List Fragment)} {ts us : List Token}
    {nodes later : List Node} (h : Run body ts nodes) (hlater : Run none us later) :
    Run body (ts ++ us) (Node.fuse nodes later) := by
  induction h with
  | done => exact hlater
  | char _ ih =>
    rw [← Node.pushChar_fuse]
    exact ih.char
  | brace _ ih =>
    rw [← Node.pushChar_fuse]
    exact ih.brace
  | placeholder _ ih =>
    rw [Node.fuse_cons_of_not_literal (by simp)]
    exact ih.placeholder
  | opening _ ih =>
    rw [Node.fuse_cons_of_not_literal (by simp)]
    exact ih.opening
  | innerChar _ ih => exact ih.innerChar
  | innerPlaceholder _ ih => exact ih.innerPlaceholder
  | closing _ ih => exact ih.closing

theorem nodes_of_parse_append {s t : Text} {p q r : ParsedTemplate} (hs : parse s = .ok p)
    (ht : parse t = .ok q) (hr : parse (s ++ t) = .ok r)
    (hseam : s.getLast? = some '?' → ∀ c ∈ t.head?, c ∉ ['d', 'f', 'a', '#']) :
    r.nodes = Node.fuse p.nodes q.nodes := by
  have hwhole := Parser.run_of_parse hr
  rw [ofText_append_of_seam hseam] at hwhole
  exact hwhole.unique ((Parser.run_of_parse hs).append (Parser.run_of_parse ht))

/-- After a template that is accepted, a text is accepted or refused as it is alone, with its error
moved by what stands in front. The counts of placeholders add up, and the nodes are those of the
two texts, unless a question mark at the seam takes a letter of the second text. -/
theorem parse_append {s t : Text} {p : ParsedTemplate} (hs : parse s = .ok p) :
    (∀ e, parse t = .error e → parse (s ++ t) = .error ⟨e.fault, s.length + e.position⟩) ∧
    ∀ q, parse t = .ok q → ∃ r, parse (s ++ t) = .ok r ∧
      r.placeholderCount = p.placeholderCount + q.placeholderCount ∧
      ((s.getLast? = some '?' → ∀ c ∈ t.head?, c ∉ ['d', 'f', 'a', '#']) →
        r.nodes = Node.fuse p.nodes q.nodes) := by
  constructor
  · intro e ht
    exact parse_append_eq_error ⟨p, hs⟩ ht
  · intro q ht
    obtain ⟨r, hr⟩ := exists_parse_append ⟨p, hs⟩ ⟨q, ht⟩
    refine ⟨r, hr, ?_, nodes_of_parse_append hs ht hr⟩
    rw [placeholderCount_eq_count hr, placeholderCount_eq_count hs, placeholderCount_eq_count ht,
      List.count_append, Int.natCast_add]

/-- Text before a block and text that opens with a brace that closes nothing; and the same first
text before a block in a block. -/
theorem parse_append_closing :
    (∃ r, parse (['{', '?', '}', 'a'] ++ ['}', '?', 'd']) = .ok r ∧ r.placeholderCount = 2 ∧
      r.nodes = [.block [.placeholder .plain], .fragment (.literal ['a', '}']),
        .fragment (.placeholder .int)]) ∧
    parse (['{', '?', '}', 'a'] ++ ['?', '{', '{']) = .error ⟨.nestedBlock, 6⟩ := by
  have hs : parse ['{', '?', '}', 'a'] = .ok
      ⟨[.block [.placeholder .plain], .fragment (.literal ['a'])], 1⟩ := rfl
  have ht : parse ['}', '?', 'd'] = .ok
      ⟨[.fragment (.literal ['}']), .fragment (.placeholder .int)], 1⟩ := rfl
  have hrefused : parse ['?', '{', '{'] = .error ⟨.nestedBlock, 2⟩ := rfl
  obtain ⟨r, hr, hcount, hnodes⟩ := (parse_append hs).2 _ ht
  exact ⟨⟨r, hr, hcount, hnodes (by simp)⟩, (parse_append hs).1 _ hrefused⟩

end SqlTemplate
