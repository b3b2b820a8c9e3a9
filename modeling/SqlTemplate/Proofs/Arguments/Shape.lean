import SqlTemplate.Proofs.Json.Shape
import SqlTemplate.Proofs.Toml.Shape
import SqlTemplate.Proofs.Yaml.Shape

/-! The shape of loaded arguments. They are resolved from values in which the token is looked for, or
from the tuples of a YAML document of pairs. -/
namespace SqlTemplate

section
variable {v : Value} {vs : List Value}

theorem resolvable_wordValue? {word : Text} (h : wordValue? word = some v) : Resolvable v := by
  rw [wordValue?] at h
  split_ifs at h <;> cases h <;> exact .other rfl rfl

theorem resolvable_numberValue? {word : Text} (h : numberValue? word = some v) :
    Resolvable v := by
  rw [numberValue?] at h
  split at h
  · cases h
    exact .other rfl rfl
  · split at h
    · split_ifs at h
      cases h
      exact .other rfl rfl
    · cases h

theorem resolvable_inferValue {word : Text} (h : inferValue word = .ok v) : Resolvable v := by
  rw [inferValue] at h
  split at h
  · cases h
    exact .other rfl rfl
  split at h
  · next w hfound =>
    cases h
    rcases Option.or_eq_some_iff.mp hfound with hname | ⟨-, hnumber⟩
    · exact resolvable_wordValue? hname
    · exact resolvable_numberValue? hnumber
  split at h
  · rw [Stack.reading_ample, jsonValue] at h
    split at h
    · next w hread =>
      cases h
      exact (Json.shallow_read hread).resolvable
    · cases h
    · cases h
  · cases h
    exact .other rfl rfl

theorem eq_list_of_itemsOf {path : Path} {format : FileFormat}
    (h : itemsOf path format v = .ok vs) : v = .list vs := by
  rw [itemsOf.eq_def] at h
  split at h
  · cases h
    rfl
  · cases h

theorem resolvable_argumentsOfJson {path : Path} {text : Text}
    (h : argumentsOfJson path text = .ok vs) : ∀ v ∈ vs, Resolvable v := by
  rw [argumentsOfJson, Stack.reading_ample] at h
  split at h
  · next w hread =>
    cases eq_list_of_itemsOf h
    exact (Json.shallow_read hread).items
  · cases h
  · cases h

theorem resolvable_argumentsOfToml {path : Path} {text : Text}
    (h : argumentsOfToml path text = .ok vs) : ∀ v ∈ vs, Resolvable v := by
  rw [argumentsOfToml, Stack.reading_ample] at h
  split at h
  · next entries hread =>
    split at h
    · next w hlookup =>
      cases eq_list_of_itemsOf h
      exact (Toml.shallow_read hread hlookup).items
    · cases h
      exact List.forall_mem_nil _
  · cases h
  · cases h

theorem resolvable_or_isPair_argumentsOfYaml {readYaml : YamlReader}
    (hreader : Yaml.Constructs readYaml) {path : Path} {text : Text}
    (h : argumentsOfYaml readYaml path text = .ok vs) : ∀ v ∈ vs, Resolvable v ∨ Yaml.IsPair v := by
  rw [argumentsOfYaml.eq_def] at h
  split at h
  · cases h
    exact List.forall_mem_nil _
  · next w _ hread =>
    cases eq_list_of_itemsOf h
    exact hreader _ _ hread
  all_goals cases h

theorem resolvable_or_isPair_argumentsOfFile {readYaml : YamlReader}
    (hreader : Yaml.Constructs readYaml) {t : FileTree} {path : Path}
    (h : argumentsOfFile readYaml t path = .ok vs) : ∀ v ∈ vs, Resolvable v ∨
      FileFormat.ofSuffix? (Text.lowercase path.suffix) = some .yaml ∧ Yaml.IsPair v := by
  rw [argumentsOfFile] at h
  split at h
  · cases h
  dsimp only at h
  split at h
  · cases h
  · next format hformat =>
    split at h
    · next content _ =>
      cases format with
      | json =>
        rw [argumentsOfContent] at h
        split at h
        · exact fun v hv => .inl (resolvable_argumentsOfJson h v hv)
        · cases h
      | yaml =>
        rw [argumentsOfContent] at h
        split at h
        · exact fun v hv =>
            (resolvable_or_isPair_argumentsOfYaml hreader h v hv).imp_right (⟨hformat, ·⟩)
        · cases h
      | toml =>
        rw [argumentsOfContent] at h
        split at h
        · exact fun v hv => .inl (resolvable_argumentsOfToml h v hv)
        · cases h
    · cases h

theorem resolvable_of_mapM_inferValue {words : List Text}
    (h : words.mapM (inferValue ·) = .ok vs) : ∀ v ∈ vs, Resolvable v := by
  intro v hv
  obtain ⟨word, -, hword⟩ := Outcome.exists_of_mem_mapM h hv
  exact resolvable_inferValue hword

end

/-- A YAML file is read: its suffix says so, and no words take its place. -/
def ReadsYaml (words : List Text) (file : Option Path) : Prop :=
  words = [] ∧ ∃ path, file = some path ∧
    FileFormat.ofSuffix? (Text.lowercase path.suffix) = some .yaml

/-- Arguments are what the token is resolved in: values in which it is looked for, and tuples of a
YAML document of pairs. -/
theorem exists_resolved {readYaml : YamlReader} (hreader : Yaml.Constructs readYaml) {t : FileTree}
    {words : List Text} {file : Option Path} {args : List Value}
    (h : (loadArguments t words file readYaml).args = .ok args) :
    ∃ given, args = resolveSkips given ∧
      ∀ v ∈ given, Resolvable v ∨ ReadsYaml words file ∧ Yaml.IsPair v := by
  rw [loadArguments.eq_def] at h
  split at h
  · obtain ⟨given, hgiven, rfl⟩ := Outcome.map_eq_ok_iff.mp h
    exact ⟨given, rfl, fun v hv => .inl (resolvable_of_mapM_inferValue hgiven v hv)⟩
  · next hwords =>
    split at h
    · next path =>
      obtain ⟨given, hgiven, rfl⟩ := Outcome.map_eq_ok_iff.mp h
      refine ⟨given, rfl, fun v hv => ?_⟩
      refine (resolvable_or_isPair_argumentsOfFile hreader hgiven v hv).imp_right ?_
      rintro ⟨hsuffix, hpair⟩
      exact ⟨⟨not_not.mp hwords, path, rfl, hsuffix⟩, hpair⟩
    · cases h
      exact ⟨[], rfl, List.forall_mem_nil _⟩

end SqlTemplate
