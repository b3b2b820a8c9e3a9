import SqlTemplate.Proofs.Arguments.Shape
import SqlTemplate.Proofs.Arguments.Word
import SqlTemplate.Proofs.Query.Skip

/-! The token in the arguments of a query. It is resolved as an argument and as an item or an
entry's value of one, no deeper; afterwards it is not written, but for the tuples of a YAML
document of pairs. -/
namespace SqlTemplate

namespace Value

abbrev token : Value := .str skipToken

/-- The mark in place of the token, any other value as it is. -/
def Marked (v w : Value) : Prop := v = token ∧ w = .skip ∨ v ≠ token ∧ w = v

/-- The token is resolved in an argument. A mapping keeps its keys, in their order. -/
inductive Resolved : Value → Value → Prop
  | list {items marked : List Value} (each : List.Forall₂ Marked items marked) :
      Resolved (.list items) (.list marked)
  | mapping {kind : MappingKind} {entries marked : List (Value × Value)} (copied : kind ≠ .view)
      (each : List.Forall₂ (fun e m => m.1 = e.1 ∧ Marked e.2 m.2) entries marked) :
      Resolved (.mapping kind entries) (.dict marked)
  | other {v w : Value} (list : ∀ items, v ≠ .list items)
      (mapping : ∀ kind entries, v = .mapping kind entries → kind = .view) (marked : Marked v w) :
      Resolved v w

/-- The token, or a list or a mapping with the token as an item or as the value of an entry. -/
def ListsToken (v : Value) : Prop :=
  v = token ∨ (∃ items, v = .list items ∧ token ∈ items) ∨
    ∃ kind entries, v = .mapping kind entries ∧ kind ≠ .view ∧ token ∈ entries.map (·.2)

/-- The token, or a container of any kind with the token as an item or as the value of an entry. -/
def HoldsToken (v : Value) : Prop :=
  v = token ∨ (∃ items, v.sequence? = some items ∧ token ∈ items) ∨
    (∃ items, v = .set items ∧ token ∈ items) ∨
      ∃ entries, v.mapping? = some entries ∧ token ∈ entries.map (·.2)

section
variable {v w : Value}

theorem markIfToken_of_ne (h : v ≠ token) : v.markIfToken = v := by
  cases v with
  | str text =>
    have htext : text ≠ skipToken := fun heq => h (congrArg Value.str heq)
    rw [markIfToken, if_neg htext]
  | _ => rfl

theorem marked_markIfToken (v : Value) : Marked v v.markIfToken := by
  by_cases h : v = token
  · exact .inl ⟨h, by rw [h]; rfl⟩
  · exact .inr ⟨h, markIfToken_of_ne h⟩

theorem Marked.eq_skip_iff (h : Marked v w) : w = .skip ↔ v = token ∨ v = .skip := by
  rcases h with ⟨rfl, rfl⟩ | ⟨hne, rfl⟩
  · simp
  · simp [hne]

theorem Marked.ne_token (h : Marked v w) : w ≠ token := by
  rcases h with ⟨-, rfl⟩ | ⟨hne, rfl⟩
  · exact Value.noConfusion
  · exact hne

theorem Marked.markIfToken_eq (h : Marked v w) : w.markIfToken = w := markIfToken_of_ne h.ne_token

end

section
variable {items marked : List Value} (h : List.Forall₂ Marked items marked)
include h

theorem skip_mem_of_marked : .skip ∈ marked ↔ token ∈ items ∨ .skip ∈ items := by
  induction h with
  | nil => simp
  | cons first _ ih =>
    rw [List.mem_cons, List.mem_cons, List.mem_cons, ih, eq_comm, first.eq_skip_iff,
      eq_comm, @eq_comm _ _ skip]
    tauto

theorem token_not_mem_of_marked : token ∉ marked := by
  induction h with
  | nil => exact List.not_mem_nil
  | cons first _ ih =>
    rw [List.mem_cons, not_or]
    exact ⟨first.ne_token.symm, ih⟩

theorem map_markIfToken_of_marked : marked.map markIfToken = marked := by
  induction h with
  | nil => rfl
  | cons first _ ih => rw [List.map_cons, first.markIfToken_eq, ih]

end

/-- The values of resolved entries are marked one by one. -/
theorem marked_values {entries marked : List (Value × Value)}
    (h : List.Forall₂ (fun e m => m.1 = e.1 ∧ Marked e.2 m.2) entries marked) :
    List.Forall₂ Marked (entries.map (·.2)) (marked.map (·.2)) := by
  induction h with
  | nil => exact .nil
  | cons first _ ih => exact .cons first.2 ih

theorem marked_map_markIfToken (items : List Value) :
    List.Forall₂ Marked items (items.map markIfToken) := by
  induction items with
  | nil => exact .nil
  | cons item items ih => exact .cons (marked_markIfToken item) ih

theorem marked_map_entries (entries : List (Value × Value)) :
    List.Forall₂ (fun e m => m.1 = e.1 ∧ Marked e.2 m.2) entries
      (entries.map fun e => (e.1, e.2.markIfToken)) := by
  induction entries with
  | nil => exact .nil
  | cons entry entries ih => exact .cons ⟨rfl, marked_markIfToken entry.2⟩ ih

theorem listsToken_list {items : List Value} : ListsToken (.list items) ↔ token ∈ items := by
  simp [ListsToken]

theorem listsToken_mapping {kind : MappingKind} {entries : List (Value × Value)}
    (h : kind ≠ .view) : ListsToken (.mapping kind entries) ↔ token ∈ entries.map (·.2) := by
  simp [ListsToken, h]

theorem needsSkip_sequence_iff {kind : SequenceKind} {items : List Value} :
    needsSkip (.sequence kind items) = true ↔ .skip ∈ items := by
  simp [Value.needsSkip_iff, sequence?, mapping?]

theorem needsSkip_mapping_iff {kind : MappingKind} {entries : List (Value × Value)} :
    needsSkip (.mapping kind entries) = true ↔ .skip ∈ entries.map (·.2) := by
  simp [Value.needsSkip_iff, sequence?, mapping?]

end Value

open Value

theorem resolved_resolveSkip (v : Value) : Resolved v (resolveSkip v) := by
  cases v with
  | sequence kind items =>
    cases kind with
    | list => exact .list (marked_map_markIfToken items)
    | tuple | deque => exact .other nofun nofun (marked_markIfToken _)
  | mapping kind entries =>
    cases kind with
    | dict | ordered => exact .mapping (by decide) (marked_map_entries entries)
    | view => exact .other nofun (fun _ _ heq => by cases heq; rfl) (marked_markIfToken _)
  | _ => exact .other nofun nofun (marked_markIfToken _)

namespace Value.Resolved
variable {v w : Value}

theorem needsSkip_iff (h : Resolved v w) :
    w.needsSkip = true ↔ v.ListsToken ∨ v.needsSkip = true := by
  cases h with
  | list each =>
    rw [needsSkip_sequence_iff, needsSkip_sequence_iff, listsToken_list]
    exact skip_mem_of_marked each
  | mapping copied each =>
    rw [needsSkip_mapping_iff, needsSkip_mapping_iff, listsToken_mapping copied]
    exact skip_mem_of_marked (marked_values each)
  | other list mapping marked =>
    rcases marked with ⟨rfl, rfl⟩ | ⟨hne, rfl⟩
    · simp [ListsToken]
    · have hlists : ¬ w.ListsToken := by
        rintro (heq | ⟨items, heq, -⟩ | ⟨kind, entries, heq, hkind, -⟩)
        · exact hne heq
        · exact list items heq
        · exact hkind (mapping kind entries heq)
      simp [hlists]

theorem resolveSkip_eq (h : Resolved v w) : resolveSkip w = w := by
  cases h with
  | list each => exact congrArg Value.list (map_markIfToken_of_marked each)
  | @mapping _ entries marked _ each =>
    refine congrArg Value.dict ?_
    induction each with
    | nil => rfl
    | cons first _ ih => rw [List.map_cons, first.2.markIfToken_eq, ih]
  | other list mapping marked =>
    have hw := marked.markIfToken_eq
    rcases marked with ⟨-, rfl⟩ | ⟨-, rfl⟩
    · rfl
    · cases w with
      | sequence kind items =>
        cases kind with
        | list => exact (list items rfl).elim
        | tuple | deque => rfl
      | mapping kind entries => cases mapping kind entries rfl; rfl
      | str text => exact hw
      | _ => rfl

/-- Resolved where it is looked for, the token is left in sets only. -/
theorem eq_set_of_holdsToken (h : Resolved v w) (hv : Resolvable v) (hw : w.HoldsToken) :
    ∃ items, w = .set items := by
  cases h with
  | list each =>
    obtain heq | ⟨items, hitems, hmem⟩ | ⟨items, heq, -⟩ | ⟨entries, hentries, -⟩ := hw
    · cases heq
    · cases hitems
      exact (token_not_mem_of_marked each hmem).elim
    · cases heq
    · cases hentries
  | mapping copied each =>
    obtain heq | ⟨items, hitems, -⟩ | ⟨items, heq, -⟩ | ⟨entries, hentries, hmem⟩ := hw
    · cases heq
    · cases hitems
    · cases heq
    · cases hentries
      exact (token_not_mem_of_marked (marked_values each) hmem).elim
  | other list mapping marked =>
    have hplain : v.sequence? = none ∧ v.mapping? = none := by
      cases hv with
      | list items => exact (list items rfl).elim
      | dict entries => cases mapping _ _ rfl
      | other sequence mapping => exact ⟨sequence, mapping⟩
    obtain heq | ⟨items, hitems, -⟩ | ⟨items, heq, -⟩ | ⟨entries, hentries, -⟩ := hw
    · exact (marked.ne_token heq).elim
    · rcases marked with ⟨-, rfl⟩ | ⟨-, rfl⟩
      · cases hitems
      · cases hplain.1.symm.trans hitems
    · exact ⟨items, heq⟩
    · rcases marked with ⟨-, rfl⟩ | ⟨-, rfl⟩
      · cases hentries
      · cases hplain.2.symm.trans hentries

end Value.Resolved

theorem resolveSkips_idempotent (args : List Value) :
    resolveSkips (resolveSkips args) = resolveSkips args := by
  rw [resolveSkips, resolveSkips, List.map_map]
  exact List.map_congr_left fun v _ => (resolved_resolveSkip v).resolveSkip_eq

/-- A set cannot be written, whatever the placeholder. -/
theorem formatValue_set_ne_ok (s : Specifier) (items : List Value) :
    ¬ ∃ text, formatValue s (.set items) = .ok text := by
  rintro ⟨text, htext⟩
  cases s <;> cases htext

/-- An argument that is formatted for a query holds the token only as a pair. -/
theorem isPair_of_holdsToken {readYaml : YamlReader} (hreader : Yaml.Constructs readYaml)
    {t : FileTree} {words : List Text} {file : Option Path} {args : List Value}
    (hload : (loadArguments t words file readYaml).args = .ok args) {v : Value} (hv : v ∈ args)
    {s : Specifier} (hwritten : ∃ text, formatValue s v = .ok text) (hholds : v.HoldsToken) :
    ReadsYaml words file ∧ Yaml.IsPair v := by
  obtain ⟨given, rfl, hgiven⟩ := exists_resolved hreader hload
  obtain ⟨u, hu, rfl⟩ := List.mem_map.mp hv
  rcases hgiven u hu with hresolvable | ⟨hyaml, first, second, rfl⟩
  · obtain ⟨items, hset⟩ := (resolved_resolveSkip u).eq_set_of_holdsToken hresolvable hholds
    rw [hset] at hwritten
    exact (formatValue_set_ne_ok s items hwritten).elim
  · exact ⟨hyaml, first, second, rfl⟩

/-- The token is resolved in every argument to exactly one level: nothing else changes, an argument
asks for a skip just when it listed the token or did so before, and to resolve again changes nothing.
In a query built from loaded arguments the token is then not written, alone or in a container,
whatever the template and the mode. The tuples of a YAML document of pairs are left out: in them it
is not resolved. -/
theorem resolveSkips_token_one_level (args : List Value) (readYaml : YamlReader) (t : FileTree)
    (words : List Text) (file : Option Path) :
    (List.Forall₂ (fun v w => Resolved v w ∧
        (w.needsSkip = true ↔ v.ListsToken ∨ v.needsSkip = true)) args (resolveSkips args) ∧
      resolveSkips (resolveSkips args) = resolveSkips args) ∧
    (Yaml.Constructs readYaml → (loadArguments t words file readYaml).args = .ok args →
      ∀ mode template query, buildQuery mode template (.list args) = .ok query →
        ∃ p nodes, parse template = .ok p ∧ query = serialize nodes ∧
          List.Forall₂ (Node.WrittenBy (p.readings mode args))
            ((Node.numbered 0 p.nodes).filter (Node.stays (p.readings mode args))) nodes ∧
          ∀ r ∈ p.readings mode args, r.isFormatted = true →
            r.value ∈ args ∧ (∃ text, formatValue r.specifier r.value = .ok text) ∧
              (r.value.HoldsToken → ReadsYaml words file ∧ Yaml.IsPair r.value)) := by
  refine ⟨⟨?_, resolveSkips_idempotent args⟩, ?_⟩
  · induction args with
    | nil => exact .nil
    | cons v args ih =>
      have hv := resolved_resolveSkip v
      exact .cons ⟨hv, hv.needsSkip_iff⟩ ih
  · intro hreader hload mode template query hquery
    obtain ⟨p, nodes, hparse, hbound, rfl⟩ := buildQuery_eq_ok_iff.mp hquery
    obtain ⟨-, left, hbind⟩ := bindValue_eq_ok_iff.mp hbound
    have hrun := nodesRun_bindNodes mode 0 p.nodes args
    refine ⟨p, nodes, hparse, rfl, hrun.writtenBy hbind (List.forall_mem_nil _), ?_⟩
    intro r hr hformatted
    have hmem := (hrun.faithful r hr).1
    have heffect := (hrun.placed r hr).effect_of_isFormatted hformatted
    obtain ⟨text, hformat, -⟩ := exists_text_of_effect hbind hr heffect
    exact ⟨hmem, ⟨text, hformat⟩, isPair_of_holdsToken hreader hload hmem ⟨text, hformat⟩⟩

/-- The token drops two blocks. As a key it stays, and is written. -/
theorem resolveSkips_token_one_level_words :
    let given : List Value := [token, .list [token, .int 1], .dict [(token, .int 1)]]
    let args : List Value := [.skip, .list [.skip, .int 1], .dict [(token, .int 1)]]
    let template := "\x7b?\x7d\x7b?a\x7d?a".toList
    (loadArguments ⟨[], []⟩ (given.map wordOf) none).args = .ok args ∧
      buildQuery .leave template (.list args) = .ok "`:skip` = 1".toList ∧
      ∃ p, parse template = .ok p ∧
        ∀ r ∈ p.readings .leave args, r.isFormatted = true → ¬ r.value.HoldsToken := by
  intro given args template
  have htoken : Json.Lossless token := .str skipToken
  have hone : Json.Lossless (.int 1) := .int (by decide)
  have hwordable : ∀ v ∈ given, Wordable v := by
    simp only [given, List.forall_mem_cons]
    refine ⟨⟨htoken, ?_⟩, ⟨.list ?_, nofun⟩, ⟨@Json.Lossless.dict [(_, _)] (by decide) ?_, nofun⟩,
      nofun⟩
    · rintro _ ⟨⟩
      rfl
    · simp [htoken, hone]
    · simp [hone]
  have hload : (loadArguments ⟨[], []⟩ (given.map wordOf) none).args = .ok args :=
    argumentsOfWords_wordOf hwordable
  have hquery : buildQuery .leave template (.list args) = .ok "`:skip` = 1".toList :=
    Outcome.toOption_eq_some_iff.mp (by decide)
  obtain ⟨p, _, hparse, -, -, hreadings⟩ :=
    (resolveSkips_token_one_level args Yaml.read _ _ none).2 Yaml.constructs_read hload .leave
      template _ hquery
  refine ⟨hload, hquery, p, hparse, fun r hr hformatted hholds => ?_⟩
  obtain ⟨⟨hwords, -⟩, -⟩ := (hreadings r hr hformatted).2.2 hholds
  cases hwords

/-- A pair of a YAML document holds the token still, and the query gets its text. -/
theorem resolveSkips_token_one_level_pair :
    Yaml.read "!!pairs\n- a: :skip".toList = .ok (.list [.sequence .tuple [.str ['a'], token]]) ∧
      HoldsToken (.sequence .tuple [.str ['a'], token]) ∧
      (loadArguments
        ⟨[(["a.yaml".toList], .file (Text.Utf8.encode "!!pairs\n- a: :skip".toList))], []⟩ []
        (some (Path.ofText "a.yaml".toList))).args = .ok [.sequence .tuple [.str ['a'], token]] ∧
      buildQuery .leave "SELECT 1\x7b AND x IN (?a)\x7d".toList
        (.list [.sequence .tuple [.str ['a'], token]]) =
          .ok "SELECT 1 AND x IN ('a', ':skip')".toList := by
  have htokens : Yaml.tokens? "!!pairs\n- a: :skip".toList =
      some [.tag ⟨some ['!', '!'], "pairs".toList⟩, .blockSequence, .entry, .blockMapping, .key,
        .scalar true ['a'], .value, .scalar true skipToken, .blockEnd, .blockEnd] := by
    decide +kernel
  have hread : Yaml.read "!!pairs\n- a: :skip".toList =
      .ok (.list [.sequence .tuple [.str ['a'], token]]) := by
    rw [Yaml.read, htokens]
    rfl
  have hpath : Path.ofText "a.yaml".toList = ⟨false, ["a.yaml".toList]⟩ := by decide
  have hformat : FileFormat.ofSuffix? (Text.lowercase (Path.suffix ⟨false, ["a.yaml".toList]⟩)) =
      some .yaml := by decide
  have hfile (content : List UInt8) :
      FileTree.target ⟨[(["a.yaml".toList], .file content)], []⟩ ⟨false, ["a.yaml".toList]⟩ =
        .file ["a.yaml".toList] content := by
    simp [FileTree.target, FileTree.follow, FileTree.at?]
  have hdecode := @decodeText_encode "!!pairs\n- a: :skip".toList (by decide)
  refine ⟨hread, .inr (.inl ⟨_, rfl, by simp⟩), ?_, ?_⟩
  · rw [hpath, loadArguments, if_neg (not_not_intro rfl)]
    rw [argumentsOfFile_of_target hformat (hfile _), argumentsOfContent, hdecode]
    simp only [argumentsOfYaml, hread]
    rfl
  · exact Outcome.toOption_eq_some_iff.mp (by decide)

end SqlTemplate
