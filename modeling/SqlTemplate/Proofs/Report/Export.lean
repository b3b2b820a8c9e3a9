import SqlTemplate.Proofs.Json.RoundTrip
import SqlTemplate.Query
import SqlTemplate.Report.Export

/-! A parsed template comes back from the JSON text of its structure as it was. -/
namespace SqlTemplate

open Json (Lossless named)

theorem Json.Lossless.pair {first second : Text} {v w : Value} (hne : first ≠ second)
    (hv : Lossless v) (hw : Lossless w) : Lossless (.dict (named [(first, v), (second, w)])) := by
  refine .dict ?_ ?_
  · simpa using hne
  · simp [hv, hw]

theorem Json.Lossless.map {α : Type} {toValue : α → Value} (h : ∀ a, Lossless (toValue a))
    (items : List α) : Lossless (.list (items.map toValue)) := by
  refine .list ?_
  simp [h]

namespace Fragment

theorem lossless_toValue : (f : Fragment) → Lossless f.toValue
  | .literal _ => .pair (by decide) (.str _) (.str _)
  | .placeholder _ => .pair (by decide) (.str _) (.str _)

end Fragment

namespace Node

theorem lossless_toValue : (n : Node) → Lossless n.toValue
  | .fragment f => f.lossless_toValue
  | .block children => .pair (by decide) (.str _) (.map Fragment.lossless_toValue children)

end Node

namespace ParsedTemplate

theorem lossless_toValue {p : ParsedTemplate}
    (hcount : (Numeral.digits p.placeholderCount.natAbs).length ≤ Numeral.digitLimit) :
    Lossless p.toValue :=
  .pair (by decide) (.int hcount) (.map Node.lossless_toValue p.nodes)

end ParsedTemplate
end SqlTemplate
