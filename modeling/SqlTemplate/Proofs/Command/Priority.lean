import SqlTemplate.Proofs.Command.Build

/-! The command line comes before the settings, and the settings before what is built in. -/
namespace SqlTemplate

/-! What is read and written elsewhere is the same whatever the settings file holds. -/

section
variable {t₁ t₂ : FileTree} {path : Path}

theorem readTemplate_congr (h : t₂.target path = t₁.target path) (keep : Bool) :
    readTemplate t₂ path keep = readTemplate t₁ path keep := by
  rw [readTemplate, readTemplate, h]

theorem exists?_congr (h : t₂.target path = t₁.target path) :
    t₂.exists? path = t₁.exists? path := by
  rw [FileTree.exists?, FileTree.exists?, h]

theorem argumentsOfFile_congr (h : t₂.target path = t₁.target path) (readYaml : YamlReader)
    (stack : Stack) :
    argumentsOfFile readYaml t₂ path stack = argumentsOfFile readYaml t₁ path stack := by
  have hread : t₂.read path = t₁.read path := by rw [FileTree.read, FileTree.read, h]
  rw [argumentsOfFile, argumentsOfFile, exists?_congr h, hread]

theorem loadArguments_congr {file : Option Path}
    (h : ∀ path, file = some path → t₂.target path = t₁.target path) (words : List Text)
    (readYaml : YamlReader) (stack : Stack) :
    loadArguments t₂ words file readYaml stack = loadArguments t₁ words file readYaml stack := by
  unfold loadArguments
  cases file with
  | none => rfl
  | some path => simp only [argumentsOfFile_congr (h path rfl)]

theorem targetOf_congr {text : Text} (h : t₂.target (.ofText text) = t₁.target (.ofText text)) :
    t₂.targetOf text = t₁.targetOf text := by
  rw [FileTree.targetOf, FileTree.targetOf, h]

end

namespace Settings

/-- The place of the settings file that is looked for. -/
def place (files : FileTree) : List Text := files.current ++ defaultPath.parts

/-- The directory with a settings file. -/
def inFile (files : FileTree) (content : List UInt8) : FileTree :=
  files.set (place files) (.file content)

/-- A path that does not lead to the settings file, whatever that file holds. -/
def Elsewhere (files : FileTree) (content : List UInt8) (path : Path) : Prop :=
  ((inFile files content).target path).place? ≠ some (place files)

end Settings

namespace Command

/-- A choice that says something: an empty text says nothing. -/
def said (choice : Option Text) : Option Text := choice.filter (· ≠ [])

/-- The first of what is given, what is set and what is built in. -/
def firstOf {α : Type} (given set : Option α) (builtIn : α) : α := (given.or set).getD builtIn

/-- The arguments file that the settings name for a request that names none. -/
def BuildRequest.settingsFile (s : Settings) (r : BuildRequest) : Option Text :=
  if r.argumentsFile.isNone then said s.argumentsFile else none

/-- A request with every choice made on the command line. -/
def BuildRequest.spelledOut (files : FileTree) (s : Settings) (r : BuildRequest) : BuildRequest :=
  { r with
    argumentsFile := r.argumentsFile.or
      ((r.settingsFile s).filter fun name => files.exists? (.ofText name))
    consumeSkipped := some (firstOf r.consumeSkipped s.consumeSkipped false)
    validates := some (firstOf r.validates s.validates false)
    dialect := some (firstOf (said r.dialect) (said s.dialect) "mysql".toList) }

def InspectRequest.spelledOut (s : Settings) (r : InspectRequest) : InspectRequest :=
  { r with format := some (firstOf (said r.format) (said s.outputFormat) "text".toList) }

def Request.spelledOut (files : FileTree) (s : Settings) : Request → Request
  | .build r => .build (r.spelledOut files s)
  | .inspect r => .inspect (r.spelledOut s)

def Request.settingsFile (s : Settings) : Request → Option Text
  | .build r => r.settingsFile s
  | .inspect _ => none

/-- What is told about an arguments file of the settings that is not there. -/
def Request.missing (files : FileTree) (s : Settings) (r : Request) : List Diagnostic :=
  ((r.settingsFile s).filter fun name => !files.exists? (.ofText name)).toList.map
    fun name => .argumentsFileMissing (.ofText name)

/-- Why an arguments file of the settings ends a command: the system refuses its path, or it is not
there and the console cannot show that. -/
def argumentsFileFault? (kit : Toolkit) (files : FileTree) (path : Path) : Option String :=
  (kit.refusal? path).or
    (if files.exists? path then none
    else
      match (Diagnostic.argumentsFileMissing path).shownOn kit.console with
      | .ok _ => none
      | .error message => some message)

def Request.stumble? (kit : Toolkit) (files : FileTree) (s : Settings) (r : Request) :
    Option String :=
  r.settingsFile s >>= fun name => argumentsFileFault? kit files (.ofText name)

section
variable {kit : Toolkit} {files : FileTree} {s : Settings}

theorem ne_nil_of_said {choice : Option Text} {text : Text} (h : said choice = some text) :
    text ≠ [] := by
  simpa using (Option.filter_eq_some_iff.mp h).2

theorem said_some {text : Text} (h : text ≠ []) : said (some text) = some text := by
  simp [said, h]

theorem firstOf_said_ne_nil (given set : Option Text) {builtIn : Text} (h : builtIn ≠ []) :
    firstOf (said given) (said set) builtIn ≠ [] := by
  rw [firstOf]
  cases hgiven : said given with
  | some text => exact ne_nil_of_said hgiven
  | none =>
    cases hset : said set with
    | some text => exact ne_nil_of_said hset
    | none => exact h

/-- The choice between texts, spelled out, is made again. -/
theorem chooseText_spelledOut (given set : Option Text) {builtIn : Text} (h : builtIn ≠ []) :
    chooseText (some (firstOf (said given) (said set) builtIn)) none builtIn =
      chooseText given set builtIn := by
  have hsaid := said_some (firstOf_said_ne_nil given set h)
  change firstOf (said _) (said none) builtIn = firstOf (said given) (said set) builtIn
  rw [hsaid]
  rfl

/-- A path of the settings is no reason to stop if it is not refused and has no mark in it. -/
theorem exists_reason_of_stumble {r : Request} {message : String}
    (h : r.stumble? kit files s = some message) : ∃ name, r.settingsFile s = some name ∧
      ('[' ∈ name ∨ ∃ refusal, kit.refusal? (.ofText name) = some refusal) := by
  obtain ⟨name, hname, hfault⟩ := Option.bind_eq_some_iff.mp h
  refine ⟨name, hname, ?_⟩
  rw [argumentsFileFault?, Option.or_eq_some_iff] at hfault
  rcases hfault with hrefusal | ⟨-, hmissing⟩
  · exact .inr ⟨message, hrefusal⟩
  · left
    by_contra hmark
    split_ifs at hmissing
    obtain ⟨line, hline⟩ := shownOn_missing kit.console (Path.not_mem_text_ofText hmark)
    rw [hline] at hmissing
    cases hmissing

/-- The arguments file that is chosen from the settings, by what it makes a command stop for. -/
theorem chooseArgumentsFile_of_set {name : Text} (h : name ≠ []) :
    chooseArgumentsFile kit files none (some name) =
      match argumentsFileFault? kit files (.ofText name) with
      | some message => .error (.unforeseen message)
      | none =>
        if files.exists? (.ofText name) then .ok (some (.ofText name), [])
        else .ok (none, [.argumentsFileMissing (.ofText name)]) := by
  have hset : (some name).filter (· ≠ []) = some name := by simp [h]
  rw [chooseArgumentsFile.eq_def]
  simp only [hset, argumentsFileFault?]
  cases kit.refusal? (.ofText name) with
  | some message => rfl
  | none =>
    cases files.exists? (.ofText name) with
    | true => rfl
    | false =>
      simp only [Option.none_or, Bool.false_eq_true, ↓reduceIte, Diagnostic.tell]
      cases (Diagnostic.argumentsFileMissing (.ofText name)).shownOn kit.console <;> rfl

theorem chooseArgumentsFile_eq (r : BuildRequest) :
    chooseArgumentsFile kit files r.argumentsFile s.argumentsFile =
      match (Request.build r).stumble? kit files s with
      | some message => .error (.unforeseen message)
      | none => .ok ((r.spelledOut files s).argumentsFile.map .ofText,
          (Request.build r).missing files s) := by
  rw [Request.stumble?, Request.missing, Request.settingsFile, BuildRequest.spelledOut,
    BuildRequest.settingsFile]
  cases r.argumentsFile with
  | some name => rfl
  | none =>
    simp only [Option.isNone_none, ↓reduceIte, Option.none_or]
    cases hset : s.argumentsFile with
    | none => rfl
    | some name =>
      by_cases hempty : name = []
      · subst hempty
        rfl
      · rw [chooseArgumentsFile_of_set hempty, said_some hempty, Option.bind_eq_bind,
          Option.bind_some]
        cases argumentsFileFault? kit files (.ofText name) with
        | some message => rfl
        | none => cases hexists : files.exists? (.ofText name) <;> simp [hexists, Option.filter_some]

/-- The plan of a request is that of the request spelled out, which needs no settings. -/
theorem plan_spelledOut (r : BuildRequest) : r.plan kit files s =
    match (Request.build r).stumble? kit files s with
    | some message => .error (.unforeseen message)
    | none => .ok ((r.spelledOut files s).plain, (Request.build r).missing files s) := by
  have hdialect := chooseText_spelledOut r.dialect s.dialect
    (by decide : Validation.defaultDialect ≠ [])
  rw [BuildRequest.plan, chooseArgumentsFile_eq]
  cases (Request.build r).stumble? kit files s with
  | some message => rfl
  | none =>
    simp only [BuildRequest.plain, ← hdialect]
    rfl

theorem perform_spelledOut (files : FileTree) (s : Settings) (r : Request) :
    r.perform kit files s =
    let told := (r.spelledOut files s).perform kit files .default
    match r.stumble? kit files s with
    | some message => ⟨[], .error ⟨.unforeseen message, files⟩⟩
    | none => ⟨r.missing files s ++ told.diagnostics, told.result⟩ := by
  cases r with
  | build r =>
    have htold : (Request.build (r.spelledOut files s)).perform kit files .default =
        let query := (r.spelledOut files s).plain.query kit files
        ⟨query.diagnostics, deliverResult kit files (r.spelledOut files s).plain.outputFile queryNoun
          .ofLine query.result⟩ := by
      simp only [Request.perform, plan_default, List.nil_append]
    simp only [Request.spelledOut, htold]
    rw [Request.perform, plan_spelledOut]
    cases (Request.build r).stumble? kit files s <;> rfl
  | inspect r =>
    have hformat := chooseText_spelledOut r.format s.outputFormat
      (by decide : "text".toList ≠ [])
    simp only [Request.perform, Request.spelledOut, InspectRequest.report, ← hformat]
    rfl

end

/-! Where no path of a request leads to the settings file, a request without settings does the same
whatever that file holds. -/

/-- What comes of a delivery: the output or the error, and the files that are not as they were. -/
def effect (files : FileTree) :
    Except Failure Delivery → Except Error Text × List (List Text × List UInt8)
  | .ok d => (.ok d.output, d.files.changesFrom files)
  | .error failure => (.error failure.cause, failure.files.changesFrom files)

theorem Told.outcome_congr {t₁ t₂ : FileTree} {told₁ told₂ : Told Failure Delivery}
    (h : effect t₂ told₂.result = effect t₁ told₁.result) :
    told₂.outcome.status = told₁.outcome.status ∧ told₂.outcome.output = told₁.outcome.output ∧
      told₂.outcome.files.changesFrom t₂ = told₁.outcome.files.changesFrom t₁ := by
  rw [outcome, outcome]
  cases h₁ : told₁.result with
  | error failure₁ =>
    cases h₂ : told₂.result with
    | error failure₂ =>
      simp only [h₁, h₂, effect, Prod.mk.injEq, Except.error.injEq] at h
      exact ⟨congrArg Status.failed h.1, rfl, h.2⟩
    | ok d₂ => simp [h₁, h₂, effect] at h
  | ok d₁ =>
    cases h₂ : told₂.result with
    | error failure₂ => simp [h₁, h₂, effect] at h
    | ok d₂ =>
      simp only [h₁, h₂, effect, Prod.mk.injEq, Except.ok.injEq] at h
      exact ⟨rfl, h.1, h.2⟩

/-- No path of a request leads to the settings file. -/
def Request.Apart (files : FileTree) (r : Request) : Prop :=
  ∀ path ∈ r.paths, (files.target path).place? ≠ some (Settings.place files)

section
variable {kit : Toolkit} {files : FileTree} {a : List UInt8} (b : List UInt8)

theorem place_ne_nil (files : FileTree) : Settings.place files ≠ [] := by
  simp [Settings.place, Settings.defaultPath]

theorem target_inFile {path : Path} (h : Settings.Elsewhere files a path) :
    (Settings.inFile files b).target path = (Settings.inFile files a).target path :=
  (FileTree.sameBut_set (place_ne_nil files) a b).target_eq h

/-- The settings file is there in either case. -/
theorem exists?_inFile (path : Path) :
    (Settings.inFile files b).exists? path = (Settings.inFile files a).exists? path := by
  by_cases h : Settings.Elsewhere files a path
  · exact exists?_congr (target_inFile b h)
  · rw [Settings.Elsewhere, not_not] at h
    have hset (c : List UInt8) : ((Settings.inFile files a).set (Settings.place files)
        (.file c)).target path = .file (Settings.place files) c := FileTree.follow_set c h
    simp only [Settings.inFile, FileTree.set_set] at hset
    simp only [FileTree.exists?, Settings.inFile, hset]

section
variable {path : Path} {content : List UInt8} (h : Settings.Elsewhere files a path)
include h

theorem write_inFile_ok {after : FileTree}
    (hwrite : (Settings.inFile files a).write path content = .ok after) :
    ∃ other, (Settings.inFile files b).write path content = .ok other ∧
      other.changesFrom (Settings.inFile files b) = after.changesFrom (Settings.inFile files a) := by
  have hsame := FileTree.changesFrom_write_eq b (place_ne_nil files) content h
  change _ = (·.changesFrom (Settings.inFile files a)) <$>
    (Settings.inFile files a).write path content at hsame
  rw [hwrite] at hsame
  exact Outcome.map_eq_ok_iff.mp hsame

theorem write_inFile_error {cause : FileError}
    (hwrite : (Settings.inFile files a).write path content = .error cause) :
    (Settings.inFile files b).write path content = .error cause := by
  have hsame := FileTree.changesFrom_write_eq b (place_ne_nil files) content h
  change _ = (·.changesFrom (Settings.inFile files a)) <$>
    (Settings.inFile files a).write path content at hsame
  rw [hwrite] at hsame
  exact Outcome.map_eq_error_iff.mp hsame

end

theorem effect_deliver (noun : Text) (product : Product) {outputFile : Option Path}
    (h : ∀ path, outputFile = some path → Settings.Elsewhere files a path) :
    effect (Settings.inFile files b)
        (deliver kit (Settings.inFile files b) outputFile noun product) =
      effect (Settings.inFile files a)
        (deliver kit (Settings.inFile files a) outputFile noun product) := by
  obtain ⟨result, hends⟩ := exists_ends kit (Settings.inFile files a) noun product outputFile
  rw [hends.deliver_eq]
  cases hends with
  | shown encoded => simp [(Ends.shown encoded).deliver_eq, effect]
  | unencoded fault => simp [(Ends.unencoded fault).deliver_eq, effect]
  | refused refusal => simp [(Ends.refused refusal).deliver_eq, effect]
  | unopened accepted fails =>
    have hother := write_inFile_error b (h _ rfl) fails
    simp [(Ends.unopened accepted hother).deliver_eq, effect]
  | emptied accepted opens fault =>
    obtain ⟨other, hother, heq⟩ := write_inFile_ok b (h _ rfl) opens
    simp [(Ends.emptied accepted hother fault).deliver_eq, effect, heq]
  | unsaid accepted encoded writes fault =>
    obtain ⟨other, hother, heq⟩ := write_inFile_ok b (h _ rfl) writes
    simp [(Ends.unsaid accepted encoded hother fault).deliver_eq, effect, heq]
  | unprinted accepted encoded writes tells fault =>
    obtain ⟨other, hother, heq⟩ := write_inFile_ok b (h _ rfl) writes
    simp [(Ends.unprinted accepted encoded hother tells fault).deliver_eq, effect, heq]
  | said accepted encoded writes tells prints =>
    obtain ⟨other, hother, heq⟩ := write_inFile_ok b (h _ rfl) writes
    simp [(Ends.said accepted encoded hother tells prints).deliver_eq, effect, heq]

theorem effect_deliverResult {α : Type} (noun : Text) (product : α → Product)
    (result : Except Error α) {outputFile : Option Path}
    (h : ∀ path, outputFile = some path → Settings.Elsewhere files a path) :
    effect (Settings.inFile files b)
        (deliverResult kit (Settings.inFile files b) outputFile noun product result) =
      effect (Settings.inFile files a)
        (deliverResult kit (Settings.inFile files a) outputFile noun product result) := by
  cases result with
  | error e => simp [deliverResult, effect]
  | ok x => exact effect_deliver b noun (product x) h

theorem query_inFile {p : BuildPlan} (htemplate : Settings.Elsewhere files a p.template)
    (hfile : ∀ path, p.argumentsFile = some path → Settings.Elsewhere files a path) :
    p.query kit (Settings.inFile files b) = p.query kit (Settings.inFile files a) := by
  have hload := loadArguments_congr (fun path hpath => target_inFile b (hfile path hpath))
    p.arguments kit.readYaml kit.stack
  rw [BuildPlan.query, BuildPlan.query, readTemplate_congr (target_inFile b htemplate), hload]

theorem Request.Apart.of_map {r : Request} (h : r.Apart (Settings.inFile files a))
    {name : Option Text} (hname : ∀ text, name = some text → .ofText text ∈ r.paths) :
    ∀ path, name.map Path.ofText = some path → Settings.Elsewhere files a path := by
  intro path hpath
  obtain ⟨text, htext, rfl⟩ := Option.map_eq_some_iff.mp hpath
  exact h _ (hname text htext)

theorem effect_perform_default {r : Request} (h : r.Apart (Settings.inFile files a)) :
    effect (Settings.inFile files b) (r.perform kit (Settings.inFile files b) .default).result =
      effect (Settings.inFile files a)
        (r.perform kit (Settings.inFile files a) .default).result := by
  cases r with
  | build r =>
    have htemplate : Settings.Elsewhere files a r.plain.template :=
      h _ (by simp [Request.paths, BuildRequest.plain])
    have hfile := h.of_map fun name (hname : r.argumentsFile = some name) => by
      simp [Request.paths, hname]
    have houtput := h.of_map fun name (hname : r.outputFile = some name) => by
      simp [Request.paths, hname]
    simp only [Request.perform, plan_default]
    rw [query_inFile b htemplate hfile]
    exact effect_deliverResult b _ _ _ houtput
  | inspect r =>
    have htemplate : Settings.Elsewhere files a (.ofText r.template) :=
      h _ (by simp [Request.paths])
    have houtput := h.of_map fun name (hname : r.outputFile = some name) => by
      simp [Request.paths, hname]
    have hreport : r.report (Settings.inFile files b) .default =
        r.report (Settings.inFile files a) .default := by
      simp only [InspectRequest.report, readTemplate_congr (target_inFile b htemplate)]
    simp only [Request.perform, hreport]
    exact effect_deliverResult b _ _ _ houtput

/-- Settings agree where a request leaves a choice to them. -/
def Request.Agree (s₁ s₂ : Settings) : Request → Prop
  | .build r =>
    (r.argumentsFile = none → said s₁.argumentsFile = said s₂.argumentsFile) ∧
    (r.consumeSkipped = none → s₁.consumeSkipped = s₂.consumeSkipped) ∧
    (r.validates = none → s₁.validates = s₂.validates) ∧
    (said r.dialect = none → said s₁.dialect = said s₂.dialect)
  | .inspect r => said r.format = none → said s₁.outputFormat = said s₂.outputFormat

theorem firstOf_congr {α : Type} {given set₁ set₂ : Option α}
    (h : given = none → set₁ = set₂) (builtIn : α) :
    firstOf given set₂ builtIn = firstOf given set₁ builtIn := by
  cases given with
  | none => rw [h rfl]
  | some _ => rfl

theorem settingsFile_congr {s₁ s₂ : Settings} {r : Request} (h : r.Agree s₁ s₂) :
    r.settingsFile s₂ = r.settingsFile s₁ := by
  cases r with
  | build r =>
    simp only [Request.settingsFile, BuildRequest.settingsFile]
    split_ifs with hnone
    · exact (h.1 (Option.isNone_iff_eq_none.mp hnone)).symm
    · rfl
  | inspect r => rfl

theorem spelledOut_congr {s₁ s₂ : Settings} {r : Request} (h : r.Agree s₁ s₂) :
    r.spelledOut (Settings.inFile files b) s₂ = r.spelledOut (Settings.inFile files a) s₁ := by
  have hfile := settingsFile_congr h
  cases r with
  | build r =>
    obtain ⟨-, hmode, hvalidates, hdialect⟩ := h
    simp only [Request.settingsFile] at hfile
    simp only [Request.spelledOut, BuildRequest.spelledOut, hfile, firstOf_congr hmode,
      firstOf_congr hvalidates, firstOf_congr hdialect, exists?_inFile (a := a) b]
  | inspect r =>
    simp only [Request.spelledOut, InspectRequest.spelledOut, firstOf_congr h]

theorem stumble_congr {s₁ s₂ : Settings} {r : Request} (h : r.Agree s₁ s₂) :
    r.stumble? kit (Settings.inFile files b) s₂ = r.stumble? kit (Settings.inFile files a) s₁ := by
  simp only [Request.stumble?, settingsFile_congr h, argumentsFileFault?, exists?_inFile (a := a) b]

/-- Settings that agree make no difference to what a request does. -/
theorem effect_perform_congr {s₁ s₂ : Settings} {r : Request} (hagree : r.Agree s₁ s₂)
    (hapart : (r.spelledOut (Settings.inFile files a) s₁).Apart (Settings.inFile files a)) :
    effect (Settings.inFile files b) (r.perform kit (Settings.inFile files b) s₂).result =
      effect (Settings.inFile files a) (r.perform kit (Settings.inFile files a) s₁).result := by
  rw [perform_spelledOut _ s₂, perform_spelledOut _ s₁, stumble_congr b hagree,
    spelledOut_congr b hagree]
  cases r.stumble? kit (Settings.inFile files a) s₁ with
  | some message => simp [effect]
  | none => exact effect_perform_default b hapart

/-- A request names no path that it does not name when it is spelled out. -/
theorem Request.Apart.of_spelledOut {t : FileTree} {s : Settings} {r : Request}
    (h : (r.spelledOut t s).Apart t) : r.Apart t := by
  intro path hpath
  apply h
  cases r with
  | build r =>
    obtain ⟨name, hname, rfl⟩ := List.mem_map.mp hpath
    refine List.mem_map_of_mem ?_
    rcases List.mem_append.mp hname with hname | hname
    · refine List.mem_append_left _ ?_
      rcases List.mem_cons.mp hname with rfl | hfile
      · exact List.mem_cons_self
      · refine List.mem_cons_of_mem _ ?_
        simp only [BuildRequest.spelledOut, Option.mem_toList.mp hfile, Option.some_or]
        exact List.mem_singleton_self name
    · exact List.mem_append_right _ hname
  | inspect r => exact hpath

theorem isUsable_inFile {r : Request} (h : r.Apart (Settings.inFile files a)) :
    r.isUsable (Settings.inFile files b) = r.isUsable (Settings.inFile files a) := by
  have hsame (text : Text) (hpath : .ofText text ∈ r.paths) :
      (Settings.inFile files b).targetOf text = (Settings.inFile files a).targetOf text :=
    targetOf_congr (target_inFile b (h _ hpath))
  cases r with
  | build r =>
    have htemplate := hsame r.template (by simp [Request.paths])
    simp only [Request.isUsable, Request.isUsable.isTemplate, htemplate]
    cases hfile : r.argumentsFile with
    | none => rfl
    | some name =>
      have hname := hsame name (by simp [Request.paths, hfile])
      simp only [Option.all_some, Request.isUsable.isPresent, hname]
  | inspect r =>
    have htemplate := hsame r.template (by simp [Request.paths])
    simp only [Request.isUsable, Request.isUsable.isTemplate, htemplate]

/-- A command does what it does without settings once the choices that count are spelled out: each
is what the command line says, or else what the settings say, or else what is built in. It stops
before that if the settings name an arguments file that the system refuses, or one that is missing
and has a mark in its name, so that the console cannot show the warning. Settings that agree where
the command line leaves a choice to them make no difference, unless a path of the command leads to
their own file. -/
theorem run_priority {words : List Text} {r : Request} {s₁ : Settings}
    {w₁ : Option SettingsWarning} (hwords : Request.ofWords? words = some r)
    (h₁ : Settings.loadOn kit.stack (Settings.inFile files a) none = .ok (s₁, w₁)) :
    let t₁ := Settings.inFile files a
    let told := (r.spelledOut t₁ s₁).perform kit t₁ .default
    (r.isUsable t₁ = true → r.stumble? kit t₁ s₁ = none → run t₁ words kit = Told.outcome
      ⟨w₁.toList.map .settings ++ (r.missing t₁ s₁ ++ told.diagnostics), told.result⟩) ∧
    (∀ message, r.isUsable t₁ = true → r.stumble? kit t₁ s₁ = some message →
      run t₁ words kit = ⟨.failed (.unforeseen message), [], w₁.toList.map .settings, t₁⟩ ∧
        ∃ name, r.settingsFile s₁ = some name ∧
          ('[' ∈ name ∨ ∃ refusal, kit.refusal? (.ofText name) = some refusal)) ∧
    ∀ b s₂ w₂, Settings.loadOn kit.stack (Settings.inFile files b) none = .ok (s₂, w₂) →
      r.Agree s₁ s₂ → (r.spelledOut t₁ s₁).Apart t₁ →
        let t₂ := Settings.inFile files b
        (run t₂ words kit).status = (run t₁ words kit).status ∧
          (run t₂ words kit).output = (run t₁ words kit).output ∧
          (run t₂ words kit).files.changesFrom t₂ = (run t₁ words kit).files.changesFrom t₁ := by
  intro t₁ told
  refine ⟨fun husable hnone => ?_, fun message husable hstumble => ⟨?_, ?_⟩,
    fun b s₂ w₂ h₂ hagree hapart => ?_⟩
  · rw [run_of_usable hwords husable, Request.run]
    simp only [Request.told, t₁, h₁, told]
    rw [perform_spelledOut t₁ s₁, hnone]
  · rw [run_of_usable hwords husable, Request.run]
    simp only [Request.told, t₁, h₁]
    rw [perform_spelledOut t₁ s₁, hstumble]
    simp [Told.outcome, Error.isReported, t₁]
  · exact exists_reason_of_stumble hstumble
  · intro t₂
    have heffect : effect t₂ (r.told kit t₂).result = effect t₁ (r.told kit t₁).result := by
      rw [Request.told_of_load h₁, Request.told_of_load h₂]
      exact effect_perform_congr b hagree hapart
    have husable : r.isUsable t₂ = r.isUsable t₁ := isUsable_inFile b hapart.of_spelledOut
    cases h : r.isUsable t₁ with
    | true =>
      rw [run_of_usable hwords h, run_of_usable hwords (husable.trans h)]
      exact Told.outcome_congr heffect
    | false =>
      simp [run_of_unusable hwords h, run_of_unusable hwords (husable.trans h)]

/-- A setting that the command line overrules makes no difference. -/
theorem run_priority_overruled :
    let files : FileTree := ⟨[(["t.sql".toList], .file (Text.Utf8.encode "SELECT 1".toList))], []⟩
    let words := ["build", "t.sql", "--no-consume-skipped"].map String.toList
    let on := Settings.inFile files
      (Text.Utf8.encode "[querybinder]\nconsume_skipped = true".toList)
    let off := Settings.inFile files (Text.Utf8.encode "[querybinder]".toList)
    (run off words).status = (run on words).status ∧
      (run off words).output = (run on words).output ∧
      (run off words).files.changesFrom off = (run on words).files.changesFrom on := by
  intro files words on off
  let r : BuildRequest := ⟨"t.sql".toList, [], none, some false, none, none, none⟩
  have hwords : Request.ofWords? words = some (.build r) := by decide +kernel
  have hon : Settings.loadOn Toolkit.standard.stack on none =
      .ok (⟨none, none, some true, none, none⟩, none) := by decide +kernel
  have hoff : Settings.loadOn Toolkit.standard.stack off none = .ok (.default, none) := by
    decide +kernel
  have hagree : (Request.build r).Agree ⟨none, none, some true, none, none⟩ .default :=
    ⟨fun _ => rfl, nofun, fun _ => rfl, fun _ => rfl⟩
  have hapart : ((Request.build r).spelledOut on ⟨none, none, some true, none, none⟩).Apart on := by
    unfold Request.Apart
    decide +kernel
  exact (run_priority hwords hon).2.2 _ _ _ hoff hagree hapart

-- Under these settings a dropped block takes its arguments, unless the command line says otherwise.
example :
    let files := Settings.inFile
      ⟨[(["t.sql".toList], .file (Text.Utf8.encode "\x7b??\x7d?".toList))], []⟩
      (Text.Utf8.encode "[querybinder]\nconsume_skipped = true".toList)
    let words := ["build", "t.sql", "--arg", ":skip", "--arg", "1", "--arg", "2"].map String.toList
    (run files words).output = ['2', '\n'] ∧
      (run files (words ++ ["--no-consume-skipped".toList])).output = ['1', '\n'] := by
  decide +kernel

/-- An empty dialect on the command line does not overrule that of the settings. -/
theorem run_priority_empty_dialect :
    let files : FileTree := ⟨[(["t.sql".toList], .file (Text.Utf8.encode "SELECT 1".toList))], []⟩
    let words := ["build", "t.sql", "--dialect", "", "--validate"].map String.toList
    let set := Settings.inFile files
      (Text.Utf8.encode "[querybinder]\ndialect = \"nope\"".toList)
    let unset := Settings.inFile files (Text.Utf8.encode "[querybinder]".toList)
    Request.ofWords? words =
        some (.build ⟨"t.sql".toList, [], none, none, some true, some [], none⟩) ∧
      Settings.loadOn .standard set none = .ok (⟨none, none, none, none, some "nope".toList⟩, none) ∧
      Settings.loadOn .standard unset none = .ok (.default, none) ∧
      (run set words).status.exitCode = 1 ∧ (run unset words).status.exitCode = 0 := by
  decide +kernel

end

end Command
end SqlTemplate
