import Mathlib.Data.Option.Basic
import Mathlib.Tactic.Basic
import SqlTemplate.Command.Error
import SqlTemplate.Proofs.File.Path
import SqlTemplate.Proofs.Text.Utf8
import SqlTemplate.Proofs.Toml.Limit

/-! What is loaded as settings, and what becomes of a file that cannot be used. -/
namespace SqlTemplate.Settings

/-! The entries of the settings table. -/

section
variable {entries : List (Value × Value)}

/-- A setting is absent where its entry is, and otherwise what the entry is read as. -/
def IsRead {α : Type} (read? : Value → Option α) (name : String)
    (entries : List (Value × Value)) (setting : Option α) : Prop :=
  Option.Rel (fun v a => read? v = some a) (Value.lookup? name.toList entries) setting

/-- All settings are read. -/
structure Fits (entries : List (Value × Value)) (s : Settings) : Prop where
  outputFormat : IsRead name? "output_format" entries s.outputFormat
  argumentsFile : IsRead name? "args_file" entries s.argumentsFile
  consumeSkipped : IsRead switch? "consume_skipped" entries s.consumeSkipped
  validates : IsRead switch? "validate_sql" entries s.validates
  dialect : IsRead name? "dialect" entries s.dialect

/-- The settings that a text names and those that are switched on and off. -/
def fields : List (String × (Value → Bool)) :=
  [("output_format", fun v => (name? v).isSome), ("args_file", fun v => (name? v).isSome),
    ("consume_skipped", fun v => (switch? v).isSome), ("validate_sql", fun v => (switch? v).isSome),
    ("dialect", fun v => (name? v).isSome)]

/-- The names of the entries whose values do not fit. -/
def misfits (entries : List (Value × Value)) : List String :=
  (fields.filter fun f => (Value.lookup? f.1.toList entries).any (!f.2 ·)).map (·.1)

section
variable {α : Type} {read? : Value → Option α} {name : String}

theorem setting?_eq_some_iff {setting : Option α} :
    setting? read? name entries = some setting ↔ IsRead read? name entries setting := by
  rw [setting?, IsRead]
  cases Value.lookup? name.toList entries with
  | none => cases setting <;> simp
  | some v => cases setting <;> simp

theorem isNone_setting? : (setting? read? name entries).isNone =
    (Value.lookup? name.toList entries).any fun v => !(read? v).isSome := by
  rw [setting?]
  cases Value.lookup? name.toList entries with
  | none => rfl
  | some v => cases hread : read? v <;> simp [hread]

end

theorem length_misfits : (misfits entries).length =
    [(setting? name? "output_format" entries).isNone, (setting? name? "args_file" entries).isNone,
      (setting? switch? "consume_skipped" entries).isNone,
      (setting? switch? "validate_sql" entries).isNone,
      (setting? name? "dialect" entries).isNone].countP id := by
  simp only [misfits, List.length_map, ← List.countP_eq_length_filter, fields, List.countP_cons,
    List.countP_nil, isNone_setting?, id]

theorem ofEntries_eq_ok_iff {s : Settings} : ofEntries entries = .ok s ↔ Fits entries s := by
  have hfits : Fits entries s ↔
      setting? name? "output_format" entries = some s.outputFormat ∧
      setting? name? "args_file" entries = some s.argumentsFile ∧
      setting? switch? "consume_skipped" entries = some s.consumeSkipped ∧
      setting? switch? "validate_sql" entries = some s.validates ∧
      setting? name? "dialect" entries = some s.dialect := by
    simp only [setting?_eq_some_iff]
    exact ⟨fun ⟨f, a, c, v, d⟩ => ⟨f, a, c, v, d⟩, fun ⟨f, a, c, v, d⟩ => ⟨f, a, c, v, d⟩⟩
  rw [hfits, ofEntries.eq_def]
  dsimp only
  split
  · next f a c v d hf ha hc hv hd =>
    simp only [hf, ha, hc, hv, hd, Option.some.injEq, Except.ok.injEq]
    constructor
    · rintro rfl
      exact ⟨rfl, rfl, rfl, rfl, rfl⟩
    · rintro ⟨rfl, rfl, rfl, rfl, rfl⟩
      rfl
  · next hother =>
    refine iff_of_false nofun ?_
    rintro ⟨hf, ha, hc, hv, hd⟩
    exact hother _ _ _ _ _ hf ha hc hv hd

/-- Entries are refused for as many values as do not fit. -/
theorem ofEntries_eq_error_iff {count : Nat} : ofEntries entries = .error count ↔
    misfits entries ≠ [] ∧ count = (misfits entries).length := by
  rw [← List.length_pos_iff, length_misfits, ofEntries.eq_def]
  dsimp only
  split
  · next f a c v d hf ha hc hv hd => simp [hf, ha, hc, hv, hd]
  · next hother =>
    rw [Except.error.injEq, eq_comm, iff_and_self]
    rintro -
    by_contra hnone
    obtain ⟨hf, ha, hc, hv, hd⟩ : (setting? name? "output_format" entries).isSome ∧
        (setting? name? "args_file" entries).isSome ∧
        (setting? switch? "consume_skipped" entries).isSome ∧
        (setting? switch? "validate_sql" entries).isSome ∧
        (setting? name? "dialect" entries).isSome := by
      simpa [List.countP_eq_zero, Option.isSome_iff_ne_none] using Nat.eq_zero_of_not_pos hnone
    exact hother _ _ _ _ _ (Option.some_get hf).symm (Option.some_get ha).symm
      (Option.some_get hc).symm (Option.some_get hv).symm (Option.some_get hd).symm

example : ofEntries [(.str "dialect".toList, .int 1), (.str "args_file".toList, .bool true),
    (.str "other".toList, .int 1)] = .error 2 := by decide +kernel

end

/-! The document and the file around that table. -/

section
variable (stack : Stack) (files : FileTree) (path : Path)

/-- A path that the system takes is opened, and this comes of it. -/
def Opens (result : Except FileError (List UInt8)) : Prop :=
  path.fault? = none ∧ files.read path = result

/-- A file is the encoding of a text. -/
def HoldsText (text : Text) : Prop := Opens files path (.ok (Text.Utf8.encode text))

/-- A file is a text that there is room to read, and this comes of it. -/
def HoldsToml (result : Except Toml.Error (List (Value × Value))) : Prop :=
  ∃ text, HoldsText files path text ∧ stack.fault? .settingsFile text = none ∧
    Toml.read text = result

/-- A file holds a document with the given entries at its top. -/
def HoldsDocument (document : List (Value × Value)) : Prop :=
  HoldsToml stack files path (.ok document)

/-- A document has a settings table with the given entries. -/
def HasTable (document entries : List (Value × Value)) : Prop :=
  ∃ v, Value.lookup? tableName.toList document = some v ∧ v.mapping? = some entries

/-- A file cannot be loaded: there is half a surrogate pair or a null character in its path, it is
the encoding of no text, the text is nested too deep for the stack, or there is an integer in it with
more digits than the limit. -/
inductive Unloadable : SettingsFailure → Prop
  | path {message : String}
      (reason : (∃ c ∈ path.text, Text.isStrayHalf c = true) ∨ '\x00' ∈ path.text)
      (fault : path.fault? = some message) : Unloadable (.path message)
  | undecodable {content : List UInt8} {cause : Text.Utf8.DecodeError}
      (opened : Opens files path (.ok content)) (noText : ∀ text, content ≠ Text.Utf8.encode text)
      (refused : Text.Utf8.decode content = .error cause) :
      Unloadable (.content (.undecodable cause))
  | stack {text : Text} {message : String} (held : HoldsText files path text)
      (fault : stack.fault? .settingsFile text = some message) : Unloadable (.stack message)
  | numeralTooLong {digits : Nat} (held : HoldsToml stack files path (.error (.integerTooLong digits)))
      (beyond : Numeral.digitLimit < digits) : Unloadable (.content (.numeralTooLong digits))

/-- A file cannot be used: it cannot be opened, it is no document, what should be the settings table
is something else, or some of its values do not fit. -/
inductive Unusable : SettingsWarning → Prop
  | unreadable {cause : FileError} (refused : Opens files path (.error cause)) :
      Unusable (.unreadable cause)
  | unparsable (held : HoldsToml stack files path (.error .invalid)) : Unusable (.unparsable path)
  | notTable {document : List (Value × Value)} {v : Value}
      (held : HoldsDocument stack files path document)
      (found : Value.lookup? tableName.toList document = some v) (other : v.mapping? = none) :
      Unusable (.notTable path)
  | invalid {document entries : List (Value × Value)}
      (held : HoldsDocument stack files path document) (table : HasTable document entries)
      (misfit : misfits entries ≠ []) : Unusable (.invalid path (misfits entries).length)

/-- A file sets the settings that its table has; all are absent if it has none. -/
inductive Sets : Settings → Prop
  | absent {document : List (Value × Value)} (held : HoldsDocument stack files path document)
      (absent : Value.lookup? tableName.toList document = none) : Sets .default
  | present {document entries : List (Value × Value)} {s : Settings}
      (held : HoldsDocument stack files path document) (table : HasTable document entries)
      (fits : Fits entries s) : Sets s

end

section
variable {stack : Stack} {files : FileTree} {path : Path}

theorem HoldsText.textOf?_eq {text : Text} (h : HoldsText files path text) :
    textOf? files path = some text := by
  rw [textOf?, h.2]
  exact congrArg Except.toOption (Text.Utf8.decode_encode text)

/-- What is loaded, by what comes of reading the text. -/
def ofToml (path : Path) : Except Toml.Error (List (Value × Value)) →
    Except SettingsFailure (Settings × Option SettingsWarning)
  | .ok document => .ok (ofDocument path document)
  | .error .invalid => .ok (default, some (.unparsable path))
  | .error (.integerTooLong digits) => .error (.content (.numeralTooLong digits))

theorem HoldsToml.readOn_eq {result : Except Toml.Error (List (Value × Value))}
    (h : HoldsToml stack files path result) : readOn stack files path = ofToml path result := by
  obtain ⟨text, htext, hroom, rfl⟩ := h
  rw [readOn, htext.1, htext.textOf?_eq, Option.bind_eq_bind, Option.bind_some, hroom, read,
    htext.2]
  simp only [Text.Utf8.decode_encode]
  cases Toml.read text with
  | ok document => rfl
  | error e => cases e <;> rfl

/-- A file without a text is read in the same way whatever the stack. -/
theorem readOn_of_textOf?_eq_none (htaken : path.fault? = none) (h : textOf? files path = none) :
    readOn stack files path = (read files path).mapError .content := by
  rw [readOn, htaken, h]
  rfl

theorem HoldsDocument.readOn_eq {document : List (Value × Value)}
    (h : HoldsDocument stack files path document) :
    readOn stack files path = .ok (ofDocument path document) :=
  HoldsToml.readOn_eq h

theorem Unloadable.readOn_eq {failure : SettingsFailure}
    (h : Unloadable stack files path failure) : readOn stack files path = .error failure := by
  cases h with
  | path _ fault => rw [readOn, fault]
  | @undecodable content cause opened _ refused =>
    obtain ⟨htaken, hread⟩ := opened
    have hnone : textOf? files path = none := by
      rw [textOf?, hread]
      exact congrArg Except.toOption refused
    rw [readOn_of_textOf?_eq_none htaken hnone, read, hread]
    simp only [refused]
    rfl
  | @stack text message held fault =>
    rw [readOn, held.1, held.textOf?_eq, Option.bind_eq_bind, Option.bind_some, fault]
  | numeralTooLong held _ => exact held.readOn_eq

theorem Unusable.readOn_eq {w : SettingsWarning} (h : Unusable stack files path w) :
    readOn stack files path = .ok (default, some w) := by
  cases h with
  | @unreadable cause refused =>
    obtain ⟨htaken, hread⟩ := refused
    have hnone : textOf? files path = none := by
      rw [textOf?, hread]
      rfl
    rw [readOn_of_textOf?_eq_none htaken hnone, read, hread]
    rfl
  | unparsable held => exact held.readOn_eq
  | notTable held found other =>
    rw [held.readOn_eq, ofDocument, found]
    simp only [other]
  | invalid held table misfit =>
    obtain ⟨v, hfound, htable⟩ := table
    rw [held.readOn_eq, ofDocument, hfound]
    simp only [htable, ofEntries_eq_error_iff.mpr ⟨misfit, rfl⟩]

theorem Sets.readOn_eq {s : Settings} (h : Sets stack files path s) :
    readOn stack files path = .ok (s, none) := by
  cases h with
  | absent held absent => rw [held.readOn_eq, ofDocument, absent]
  | present held table fits =>
    obtain ⟨v, hfound, htable⟩ := table
    rw [held.readOn_eq, ofDocument, hfound]
    simp only [htable, ofEntries_eq_ok_iff.mpr fits]

theorem HoldsDocument.unusable_or_sets {document : List (Value × Value)}
    (h : HoldsDocument stack files path document) :
    (∃ w, Unusable stack files path w) ∨ ∃ s, Sets stack files path s := by
  cases hfound : Value.lookup? tableName.toList document with
  | none => exact .inr ⟨_, .absent h hfound⟩
  | some v =>
    cases htable : v.mapping? with
    | none => exact .inl ⟨_, .notTable h hfound htable⟩
    | some entries =>
      cases hentries : ofEntries entries with
      | ok s => exact .inr ⟨s, .present h ⟨v, hfound, htable⟩ (ofEntries_eq_ok_iff.mp hentries)⟩
      | error count =>
        have hmisfit := (ofEntries_eq_error_iff.mp hentries).1
        exact .inl ⟨_, .invalid h ⟨v, hfound, htable⟩ hmisfit⟩

theorem HoldsText.unloadable_or_unusable_or_sets {text : Text} (h : HoldsText files path text) :
    (∃ failure, Unloadable stack files path failure) ∨ (∃ w, Unusable stack files path w) ∨
      ∃ s, Sets stack files path s := by
  cases hfault : stack.fault? .settingsFile text with
  | some message => exact .inl ⟨_, .stack h hfault⟩
  | none =>
    cases hread : Toml.read text with
    | ok document => exact .inr (HoldsDocument.unusable_or_sets ⟨text, h, hfault, hread⟩)
    | error e =>
      cases e with
      | invalid => exact .inr (.inl ⟨_, .unparsable ⟨text, h, hfault, hread⟩⟩)
      | integerTooLong digits =>
        exact .inl ⟨_, .numeralTooLong ⟨text, h, hfault, hread⟩ (Toml.digitLimit_lt_of_read hread)⟩

variable (stack files path)

/-- There is no other file. -/
theorem unloadable_or_unusable_or_sets :
    (∃ failure, Unloadable stack files path failure) ∨ (∃ w, Unusable stack files path w) ∨
      ∃ s, Sets stack files path s := by
  cases hpath : path.fault? with
  | some message => exact .inl ⟨_, .path (Path.exists_fault_iff.mp ⟨message, hpath⟩) hpath⟩
  | none =>
    cases hcontent : files.read path with
    | error cause => exact .inr (.inl ⟨_, .unreadable ⟨hpath, hcontent⟩⟩)
    | ok content =>
      cases hdecode : Text.Utf8.decode content with
      | error cause =>
        have hnoText := Text.Utf8.exists_decode_error_iff.mp ⟨cause, hdecode⟩
        exact .inl ⟨_, .undecodable ⟨hpath, hcontent⟩ hnoText hdecode⟩
      | ok text =>
        obtain rfl := Text.Utf8.decode_eq_ok_iff.mp hdecode
        exact HoldsText.unloadable_or_unusable_or_sets ⟨hpath, hcontent⟩

variable {stack files path}

theorem readOn_eq_error_iff {failure : SettingsFailure} :
    readOn stack files path = .error failure ↔ Unloadable stack files path failure := by
  refine ⟨fun h => ?_, Unloadable.readOn_eq⟩
  rcases unloadable_or_unusable_or_sets stack files path with ⟨failure', h'⟩ | ⟨w, h'⟩ | ⟨s, h'⟩
  · cases h.symm.trans h'.readOn_eq
    exact h'
  · cases h.symm.trans h'.readOn_eq
  · cases h.symm.trans h'.readOn_eq

theorem readOn_eq_warning_iff {s : Settings} {w : SettingsWarning} :
    readOn stack files path = .ok (s, some w) ↔ s = .default ∧ Unusable stack files path w := by
  constructor
  · intro h
    rcases unloadable_or_unusable_or_sets stack files path with
      ⟨failure, h'⟩ | ⟨w', h'⟩ | ⟨s', h'⟩
    · cases h.symm.trans h'.readOn_eq
    · cases h.symm.trans h'.readOn_eq
      exact ⟨rfl, h'⟩
    · cases h.symm.trans h'.readOn_eq
  · rintro ⟨rfl, h⟩
    exact h.readOn_eq

theorem readOn_eq_settings_iff {s : Settings} :
    readOn stack files path = .ok (s, none) ↔ Sets stack files path s := by
  refine ⟨fun h => ?_, Sets.readOn_eq⟩
  rcases unloadable_or_unusable_or_sets stack files path with ⟨failure, h'⟩ | ⟨w, h'⟩ | ⟨s', h'⟩
  · cases h.symm.trans h'.readOn_eq
  · cases h.symm.trans h'.readOn_eq
  · cases h.symm.trans h'.readOn_eq
    exact h'

end

/-- A warning takes two lines, and the second one says that the settings are the default ones. -/
theorem shownOn_warning (console : Console) (w : SettingsWarning) :
    ∃ shown, (Command.Diagnostic.settings w).shownOn console =
      .ok ("Warning: ".toList ++ shown ++ "\nUsing default settings\n".toList) := by
  obtain ⟨shown, hline⟩ := console.plain_heads .warning w.message.toList
  refine ⟨shown, ?_⟩
  rw [Command.Diagnostic.shownOn, hline, List.append_assoc _ ['\n']]
  rfl

/-- Settings fail to load only with a file whose path the system does not take, which is the encoding
of no text, is nested too deep for the stack or has an integer beyond the limit in it. With any other
file that cannot be used there is a warning, and all settings are absent; they are absent without a
warning where no file is in use. -/
theorem load_or_warn (stack : Stack) (console : Console) (files : FileTree)
    (named : Option Path) :
    (∀ failure, loadOn stack files named = .error failure ↔
      ∃ path ∈ fileInUse? files named, Unloadable stack files path failure) ∧
    (∀ s w, loadOn stack files named = .ok (s, some w) ↔
      s = .default ∧ ∃ path ∈ fileInUse? files named, Unusable stack files path w) ∧
    (∀ s, loadOn stack files named = .ok (s, none) ↔
      (fileInUse? files named = none ∧ s = .default) ∨
        ∃ path ∈ fileInUse? files named, Sets stack files path s) ∧
    ∀ w, ∃ shown, (Command.Diagnostic.settings w).shownOn console =
      .ok ("Warning: ".toList ++ shown ++ "\nUsing default settings\n".toList) := by
  rw [loadOn]
  cases fileInUse? files named with
  | none =>
    refine ⟨by simp, by simp, fun s => ?_, shownOn_warning console⟩
    simp [eq_comm]
  | some path =>
    simp only [Option.mem_some, exists_eq_left', reduceCtorEq, false_and, false_or,
      readOn_eq_error_iff, readOn_eq_warning_iff, readOn_eq_settings_iff, implies_true, true_and]
    exact shownOn_warning console

/-- A byte that starts no character fails the loading of settings, whether the file is named or is
the directory's own. -/
theorem load_stray_byte :
    let files : FileTree := ⟨[(["c.toml".toList], .file [0xFF]),
      (["querybinder.toml".toList], .file [0xFF])], []⟩
    let failure : SettingsFailure := .content (.undecodable ⟨.startByte, 0xFF, 0, 0⟩)
    loadOn .standard files (some ⟨false, ["c.toml".toList]⟩) = .error failure ∧
      loadOn .standard files none = .error failure := by
  intro files failure
  have hrefused : Text.Utf8.decode [0xFF] = .error ⟨.startByte, 0xFF, 0, 0⟩ := by decide +kernel
  have hnoText := Text.Utf8.exists_decode_error_iff.mp ⟨_, hrefused⟩
  have hfails (path : Path) (hopens : Opens files path (.ok [0xFF])) :
      readOn .standard files path = .error failure :=
    (Unloadable.undecodable hopens hnoText hrefused).readOn_eq
  have hinUse : fileInUse? files none = some defaultPath := by decide +kernel
  refine ⟨hfails ⟨false, ["c.toml".toList]⟩ ⟨by decide, by decide +kernel⟩, ?_⟩
  rw [loadOn, hinUse]
  exact hfails defaultPath ⟨by decide, by decide +kernel⟩

end SqlTemplate.Settings
