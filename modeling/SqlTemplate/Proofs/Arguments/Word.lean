import SqlTemplate.Proofs.Arguments.File
import SqlTemplate.Proofs.Json.RoundTrip
import SqlTemplate.Proofs.Numeral.Literal

/-! Values as words of a command line and as items of a JSON file. Both come to the same arguments:
no test that a word goes through takes the text of a value for something else. -/
namespace SqlTemplate

open Json (Lossless write)

/-- The word of a value: the token stands for itself, every other value for its JSON text. -/
def wordOf (v : Value) : Text :=
  match v with
  | .str text => if text = skipToken then skipToken else write .oneLine 0 (.str text)
  | v => write .oneLine 0 v

/-- A value that keeps everything as a word, which of all texts only the token does. -/
structure Wordable (v : Value) : Prop where
  lossless : Lossless v
  token : ∀ text, v = .str text → text = skipToken

/-! The tests that a word goes through. -/

section
variable {c : Char} {rest : Text}

theorem exists_lowercase_cons (hc : c.toNat < 0x80) (rest : Text) :
    ∃ more, Text.lowercase (c :: rest) = c.toLower :: more := by
  have hsigma : c ≠ 'Σ' := by
    rintro rfl
    exact absurd hc (by decide)
  refine ⟨Text.lowerAfter [c] rest, ?_⟩
  rw [Text.lowercase, Text.lowerAfter, Text.lowerChar, if_pos hc]
  · rfl
  · exact fun heq => hsigma heq

theorem wordValue?_cons (hc : c.toNat < 0x80) (hletter : c.toLower ∉ ['t', 'f', 'n'])
    (rest : Text) : wordValue? (c :: rest) = none := by
  obtain ⟨more, hmore⟩ := exists_lowercase_cons hc rest
  simp only [List.mem_cons, List.not_mem_nil, or_false, not_or] at hletter
  simp [wordValue?, hmore, hletter]

theorem wordValue?_names : wordValue? "null".toList = some .null ∧
    wordValue? "false".toList = some (.bool false) ∧
      wordValue? "true".toList = some (.bool true) := by
  have hnull : Text.lowercase "null".toList = "null".toList := by decide
  have hfalse : Text.lowercase "false".toList = "false".toList := by decide
  have htrue : Text.lowercase "true".toList = "true".toList := by decide
  simp only [wordValue?, hnull, hfalse, htrue]
  exact ⟨rfl, rfl, rfl⟩

theorem inferValue_of_wordValue? {word : Text} {v : Value} (h : wordValue? word = some v)
    (hword : word ≠ skipToken) : inferValue word = .ok v := by
  simp [inferValue, hword, h]

theorem inferValue_of_numberValue? {word : Text} {v : Value} (hword : word ≠ skipToken)
    (hname : wordValue? word = none) (h : numberValue? word = some v) : inferValue word = .ok v := by
  simp [inferValue, hword, hname, h]

/-- A number is neither the token nor one of the words with a value of their own. -/
theorem wordValue?_text {n : Numeral} (h : n.Laid) :
    n.text ≠ skipToken ∧ wordValue? n.text = none := by
  obtain ⟨c, more, htext, -⟩ := h.exists_text_cons
  have hall : ∀ d ∈ Numeral.laidCharacters,
      d ≠ ':' ∧ d.toNat < 0x80 ∧ d.toLower ∉ ['t', 'f', 'n'] :=
    Numeral.forall_laidCharacters (by decide)
  obtain ⟨hcolon, hascii, hletter⟩ := hall c (h.mem_laidCharacters (htext ▸ List.mem_cons_self))
  rw [htext]
  exact ⟨fun heq => hcolon (List.cons.inj heq).1, wordValue?_cons hascii hletter more⟩

theorem foreign_bracket (hc : c ∈ ['[', '\x7b']) : Numeral.Foreign c := by
  simp only [List.mem_cons, List.not_mem_nil, or_false] at hc
  rcases hc with rfl | rfl <;> exact ⟨by decide, by decide, by decide, by decide⟩

theorem bracket_starts_no_word (hc : c ∈ ['[', '\x7b']) :
    c ≠ ':' ∧ c.toNat < 0x80 ∧ c.toLower ∉ ['t', 'f', 'n'] := by
  simp only [List.mem_cons, List.not_mem_nil, or_false] at hc
  rcases hc with rfl | rfl <;> exact ⟨by decide, by decide, by decide⟩

theorem exists_cons_of_startsContainer {word : Text} (h : startsContainer word = true) :
    ∃ c rest, word = c :: rest ∧ c ∈ ['[', '\x7b'] := by
  cases word with
  | nil => cases h
  | cons c rest => exact ⟨c, rest, rfl, by simpa [startsContainer] using h⟩

/-- A word that starts like a list or an object goes through to the JSON reader. -/
theorem inferValue_of_startsContainer {word : Text} {stack : Stack}
    (h : startsContainer word = true) :
    inferValue word stack = stack.reading .unforeseen .word word (jsonValue word) := by
  obtain ⟨c, rest, hword, hc⟩ := exists_cons_of_startsContainer h
  have hforeign := foreign_bracket hc
  obtain ⟨hcolon, hascii, hletter⟩ := bracket_starts_no_word hc
  have htoken : word ≠ skipToken := fun heq => hcolon (List.cons.inj (hword.symm.trans heq)).1
  have hname : wordValue? word = none := hword ▸ wordValue?_cons hascii hletter rest
  have hnumber : numberValue? word = none := by
    rw [hword, numberValue?, hforeign.integer?_cons, hforeign.double?_cons]
  simp only [inferValue, if_neg htoken, hname, hnumber, Option.or, h, ↓reduceIte]

theorem inferValue_bracket {word : Text} {v : Value} (hword : word = c :: rest)
    (hc : c ∈ ['[', '\x7b']) (h : Json.read word = .ok v) : inferValue word = .ok v := by
  have hstart : startsContainer word = true := by
    simpa [hword, startsContainer] using hc
  rw [inferValue_of_startsContainer hstart, Stack.reading_ample, jsonValue, h]

end

/-- The word of a value is taken for that value, and the token for the mark. -/
theorem inferValue_wordOf {v : Value} (h : Wordable v) :
    inferValue (wordOf v) = .ok v.markIfToken := by
  have hread := Json.read_write h.lossless .oneLine
  obtain ⟨hlossless, htoken⟩ := h
  cases hlossless with
  | null => exact inferValue_of_wordValue? wordValue?_names.1 (by decide)
  | bool b =>
    cases b with
    | false => exact inferValue_of_wordValue? wordValue?_names.2.1 (by decide)
    | true => exact inferValue_of_wordValue? wordValue?_names.2.2 (by decide)
  | @int i limit =>
    obtain ⟨hword, hname⟩ := wordValue?_text (Numeral.plain_ofInteger i).laid
    rw [Numeral.text_ofInteger] at hword hname
    have hnumber : numberValue? (Numeral.ofInt i) = some (.int i) := by
      rw [numberValue?, Numeral.integer?_ofInt limit]
    exact inferValue_of_numberValue? hword hname hnumber
  | @double d finite =>
    obtain ⟨n, hn, htext⟩ := Double.exists_laid_text finite
    obtain ⟨hword, hname⟩ := wordValue?_text hn
    obtain ⟨hinteger, hdouble⟩ := Numeral.double?_text finite
    have hnumber : numberValue? d.text = some (.double d) := by
      simp only [numberValue?, hinteger, hdouble, finite, ↓reduceIte]
    rw [htext] at hword hname
    have hwrite : wordOf (.double d) = d.text := @Json.write_double .oneLine 0 d finite
    rw [hwrite]
    exact inferValue_of_numberValue? hword hname hnumber
  | str text =>
    have htext := htoken text rfl
    simp [wordOf, Value.markIfToken, htext, inferValue]
  | @list items each =>
    obtain ⟨more, hword⟩ : ∃ more, wordOf (.list items) = '[' :: more := by
      cases items <;> exact ⟨_, rfl⟩
    exact inferValue_bracket hword (by decide) hread
  | @dict pairs names each =>
    obtain ⟨more, hword⟩ : ∃ more, wordOf (.dict (Json.named pairs)) = '\x7b' :: more := by
      cases pairs <;> exact ⟨_, rfl⟩
    exact inferValue_bracket hword (by decide) hread

theorem resolveSkip_markIfToken (v : Value) : resolveSkip v.markIfToken = resolveSkip v := by
  cases v with
  | str text =>
    by_cases htoken : text = skipToken
    · simp [Value.markIfToken, resolveSkip, htoken]
    · simp [Value.markIfToken, htoken]
  | _ => rfl

theorem argumentsOfWords_wordOf {vs : List Value} (h : ∀ v ∈ vs, Wordable v) :
    argumentsOfWords (vs.map wordOf) = .ok (resolveSkips vs) := by
  have hmap : (vs.map wordOf).mapM (inferValue ·) = .ok (vs.map Value.markIfToken) := by
    induction vs with
    | nil => rfl
    | cons v vs ih =>
      obtain ⟨hv, hvs⟩ := List.forall_mem_cons.mp h
      rw [List.map_cons, List.mapM_cons, inferValue_wordOf hv, ih hvs]
      rfl
  rw [argumentsOfWords, hmap]
  simp [resolveSkips, resolveSkip_markIfToken]

/-! The same values in a file. -/

theorem decodeText_encode_write {v : Value} (h : Lossless v) (l : Json.Layout) :
    decodeText (Text.Utf8.encode (write l 0 v)) = .ok (write l 0 v) := by
  have hreturn : '\r' ∉ write l 0 v := by
    intro hmem
    have hprinted := h.printed_write l 0 '\r' hmem
    revert hprinted
    decide
  exact decodeText_encode hreturn

section
variable {t : FileTree} {path : Path} {place : List Text} {vs : List Value}

theorem argumentsOfFile_json {readYaml : YamlReader} (h : ∀ v ∈ vs, Lossless v)
    (hsuffix : Text.lowercase path.suffix = ".json".toList)
    (hfile : t.target path = .file place (Text.Utf8.encode (write .oneLine 0 (.list vs)))) :
    argumentsOfFile readYaml t path = .ok vs := by
  have hlist : Lossless (.list vs) := .list h
  rw [argumentsOfFile_of_target (by rw [hsuffix]; rfl) hfile]
  simp only [argumentsOfContent, decodeText_encode_write hlist, argumentsOfJson,
    Stack.reading_ample, Json.read_write hlist, itemsOf]

end

/-- Values given as words and the same values as a list in a JSON file are the same arguments. -/
theorem loadArguments_words_eq_json {t : FileTree} {path : Path} {place : List Text}
    {vs : List Value} {readYaml : YamlReader} (hne : vs ≠ []) (h : ∀ v ∈ vs, Wordable v)
    (hsuffix : Text.lowercase path.suffix = ".json".toList)
    (hfile : t.target path = .file place (Text.Utf8.encode (write .oneLine 0 (.list vs)))) :
    loadArguments t (vs.map wordOf) none readYaml = loadArguments t [] (some path) readYaml ∧
      loadArguments t [] (some path) readYaml = ⟨none, .ok (resolveSkips vs)⟩ := by
  have hwords : vs.map wordOf ≠ [] := fun hnil => hne (List.map_eq_nil_iff.mp hnil)
  have hlossless : ∀ v ∈ vs, Lossless v := fun v hv => (h v hv).lossless
  have hloaded : loadArguments t [] (some path) readYaml = ⟨none, .ok (resolveSkips vs)⟩ := by
    rw [loadArguments, if_neg (not_not_intro rfl)]
    simp only [argumentsOfFile_json hlossless hsuffix hfile]
    rfl
  refine ⟨?_, hloaded⟩
  rw [hloaded, loadArguments, if_pos hwords, argumentsOfWords_wordOf h]

theorem loadArguments_words_eq_json_tokens :
    let zero : Double := .finite true 0 Double.representable_zero
    let vs : List Value := [.null, .bool true, .int (-12), .double zero, .str skipToken,
      .list [.str skipToken, .str ['1']], .dict [(.str skipToken, .str skipToken)]]
    let path := Path.ofText "a.JSON".toList
    let t : FileTree :=
      ⟨[(["a.JSON".toList], .file (Text.Utf8.encode (write .oneLine 0 (.list vs))))], []⟩
    vs.map wordOf = ["null".toList, "true".toList, "-12".toList, "-0.0".toList, skipToken,
        "[\":skip\", \"1\"]".toList, "\x7b\":skip\": \":skip\"\x7d".toList] ∧
      loadArguments t (vs.map wordOf) none = loadArguments t [] (some path) ∧
      loadArguments t [] (some path) = ⟨none, .ok [.null, .bool true, .int (-12), .double zero,
        .skip, .list [.skip, .str ['1']], .dict [(.str skipToken, .skip)]]⟩ := by
  intro zero vs path t
  have hstr (text : Text) : Lossless (.str text) := .str text
  have hwordable : ∀ v ∈ vs, Wordable v := by
    simp only [vs, List.forall_mem_cons]
    refine ⟨⟨.null, nofun⟩, ⟨.bool true, nofun⟩, ⟨.int (by decide), nofun⟩, ⟨.double rfl, nofun⟩,
      ⟨.str _, ?_⟩, ⟨.list ?_, nofun⟩, ⟨@Lossless.dict [(_, _)] (by decide) ?_, nofun⟩, nofun⟩
    · rintro _ ⟨⟩
      rfl
    · simp [hstr]
    · simp [hstr]
  have hfile : t.target path =
      .file ["a.JSON".toList] (Text.Utf8.encode (write .oneLine 0 (.list vs))) := by
    have hpath : path = ⟨false, ["a.JSON".toList]⟩ := by decide
    rw [hpath]
    simp [FileTree.target, FileTree.follow, FileTree.at?, t]
  have hsuffix : Text.lowercase path.suffix = ".json".toList := by decide
  exact ⟨by decide,
    @loadArguments_words_eq_json t path _ vs Yaml.read (List.cons_ne_nil _ _) hwordable hsuffix hfile⟩

end SqlTemplate
