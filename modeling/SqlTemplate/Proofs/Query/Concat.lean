import SqlTemplate.Proofs.Query.Pass
import SqlTemplate.Proofs.Template.Concat

/-! The query of two templates written one after the other, in consuming mode: the query of the
first and then the query of the second. -/
namespace SqlTemplate

namespace Pass

theorem afterNodes_eq_map (nodes : List Node) (written : Text) (args : List Value) :
    afterNodes nodes written args =
      (fun p => { p with written := written ++ p.written }) <$> afterNodes nodes [] args := by
  simp only [afterNodes, Functor.map_map, List.nil_append]

theorem place_afterNodes {nodes : List Node} {written : Text} {args : List Value} {p : Pass}
    (h : afterNodes nodes written args = .ok p) : p.place = .outside := by
  obtain ⟨r, -, rfl⟩ := Outcome.map_eq_ok_iff.mp h
  rfl

end Pass

/-- In consuming mode a query can be built in parts. The parts are one after the other in the text,
the error of the first part comes before that of the second, and the arguments of each part are its
own, whichever blocks are dropped. -/
theorem buildQuery_append {s t : Text} {p q : ParsedTemplate} {a b : List Value}
    (hs : parse s = .ok p) (ht : parse t = .ok q)
    (hseam : s.getLast? = some '?' → ∀ c ∈ t.head?, c ∉ ['d', 'f', 'a', '#'])
    (ha : p.placeholderCount = a.length) (hb : q.placeholderCount = b.length) :
    buildQuery .consume (s ++ t) (.list (a ++ b)) = (do
      let first ← buildQuery .consume s (.list a)
      let second ← buildQuery .consume t (.list b)
      pure (first ++ second)) := by
  obtain ⟨r, hr⟩ := exists_parse_append ⟨p, hs⟩ ⟨q, ht⟩
  have htokens := ofText_append_of_seam hseam
  have hcountS := placeholderCount_of_parse hs
  have hcountT := placeholderCount_of_parse ht
  have hcount := placeholderCount_of_parse hr
  rw [htokens, List.countP_append] at hcount
  have hargs : a.length = (Token.ofText s).countP Token.isPlaceholder := by omega
  rw [buildQuery_eq_pass hr (by rw [List.length_append]; omega), buildQuery_eq_pass hs ha,
    buildQuery_eq_pass ht hb, htokens, Pass.run_append, Pass.run_args_append hargs,
    run_ofText_of_parse hs, run_ofText_of_parse ht]
  cases hfirst : Pass.afterNodes p.nodes [] a with
  | error e => rfl
  | ok first =>
    obtain ⟨place, written, left⟩ := first
    obtain rfl : place = .outside := Pass.place_afterNodes hfirst
    simp only [Except.map_ok, Outcome.ok_bind, Pass.withLeft, run_ofText_of_parse ht,
      Pass.afterNodes_eq_map q.nodes written b]
    cases Pass.afterNodes q.nodes [] b <;> rfl

/-- A block of the first part is dropped with a placeholder to go, and a literal of the second part
continues one of the first. -/
theorem buildQuery_append_dropped :
    buildQuery .consume (['a', '{', '?', 'd', '?', '}', 'b'] ++ ['c', '?', 'd'])
      (.list ([.skip, .bool true] ++ [.bool false])) = .ok ['a', 'b', 'c', '0'] := by
  have hs : parse ['a', '{', '?', 'd', '?', '}', 'b'] = .ok
      ⟨[.fragment (.literal ['a']), .block [.placeholder .int, .placeholder .plain],
        .fragment (.literal ['b'])], 2⟩ := rfl
  have ht : parse ['c', '?', 'd'] = .ok
      ⟨[.fragment (.literal ['c']), .fragment (.placeholder .int)], 1⟩ := rfl
  rw [buildQuery_append hs ht (by simp) rfl rfl]
  rfl

end SqlTemplate
