import SqlTemplate.Proofs.Command.Deliver
import SqlTemplate.Proofs.Settings.Load

/-! What a build does, by the outcomes of the library functions behind it. -/
namespace SqlTemplate

namespace Settings

section
variable {stack : Stack} {files : FileTree}

/-- The directory's settings file is text, but there is no room on the stack to read it. -/
def TooDeep (stack : Stack) (files : FileTree) : Prop :=
  found files = true ∧ ∃ text message, HoldsText files defaultPath text ∧
    stack.fault? .settingsFile text = some message

/-- The directory's settings file is text, but an integer in it is too long to be read. -/
def TooLong (stack : Stack) (files : FileTree) : Prop :=
  found files = true ∧ ∃ digits, HoldsToml stack files defaultPath (.error (.integerTooLong digits))

theorem loadOn_of_found (h : found files = true) :
    loadOn stack files none = readOn stack files defaultPath := by
  simp only [loadOn, fileInUse?, h, ↓reduceIte]

theorem loadOn_of_not_found (h : found files = false) :
    loadOn stack files none = .ok (.default, none) := by
  simp [loadOn, fileInUse?, h]

/-- Settings in text are loaded, unless it is nested too deep or an integer is too long. -/
theorem exists_loadOn_ok_iff
    (htext : found files = true → ∃ content text, files.read defaultPath = .ok content ∧
      Text.Utf8.decode content = .ok text) :
    (∃ s w, loadOn stack files none = .ok (s, w)) ↔ ¬ TooDeep stack files ∧ ¬ TooLong stack files := by
  cases hfound : found files with
  | false => simp [TooDeep, TooLong, loadOn_of_not_found hfound, hfound]
  | true =>
    rw [loadOn_of_found hfound, TooDeep, TooLong, hfound]
    simp only [true_and]
    constructor
    · rintro ⟨s, w, hload⟩
      refine ⟨?_, ?_⟩
      · rintro ⟨text, message, held, fault⟩
        cases hload.symm.trans (Unloadable.stack held fault).readOn_eq
      · rintro ⟨digits, held⟩
        cases hload.symm.trans held.readOn_eq
    · rintro ⟨hroom, hshort⟩
      cases hload : readOn stack files defaultPath with
      | ok loaded => exact ⟨loaded.1, loaded.2, rfl⟩
      | error failure =>
        exfalso
        cases readOn_eq_error_iff.mp hload with
        | path _ fault => cases fault
        | undecodable opened noText =>
          obtain ⟨content, text, hread, hdecode⟩ := htext hfound
          cases hread.symm.trans opened.2
          exact noText text (Text.Utf8.decode_eq_ok_iff.mp hdecode)
        | stack held fault => exact hroom ⟨_, _, held, fault⟩
        | numeralTooLong held => exact hshort ⟨_, held⟩

end
end Settings

theorem Path.not_mem_text_ofText {name : Text} (h : '[' ∉ name) : '[' ∉ (ofText name).text := by
  intro hmem
  rcases mem_text_ofText hmem with hslash | hpoint | hname
  · cases hslash
  · cases hpoint
  · exact h hname

namespace Command

/-! What is told about the arguments file. -/

section
variable {console : Console} {path : Path}

theorem Diagnostic.tell_of_shown {d : Diagnostic} {line : Text}
    (h : d.shownOn console = .ok line) : d.tell console = .ok d := by
  rw [tell, h]

theorem shownOn_missing (console : Console) (h : '[' ∉ path.text) :
    ∃ line, (Diagnostic.argumentsFileMissing path).shownOn console = .ok line := by
  have hmessage : '[' ∉ "Arguments file from config not found: ".toList ++ path.text := by
    rw [List.mem_append, not_or]
    exact ⟨by decide, h⟩
  exact console.unmarked .warning _ hmessage

theorem tell_ignored (h : '[' ∉ path.text) : (Diagnostic.argumentsFileIgnored path).tell console =
    .ok (.argumentsFileIgnored path) := by
  have hstring (text : String) : toString text = text := rfl
  have hmessage : '[' ∉ (ignoredMessage path).toList := by
    unfold ignoredMessage
    simp only [hstring, String.toList_append, String.toList_ofList, List.mem_append, not_or]
    exact ⟨⟨by decide, h⟩, by decide⟩
  obtain ⟨line, hline⟩ := console.unmarked .warning _ hmessage
  exact Diagnostic.tell_of_shown hline

end

section
variable {kit : Toolkit} {files : FileTree} {p : BuildPlan} {query : Text}

/-- There is no mark in the name of the arguments file. -/
def BuildPlan.Unmarked (p : BuildPlan) : Prop :=
  ∀ path, p.argumentsFile = some path → '[' ∉ path.text

theorem mem_ignored {words : List Text} {file : Option Path} {readYaml : YamlReader}
    {stack : Stack} {path : Path}
    (h : path ∈ (loadArguments files words file readYaml stack).ignored) : file = some path := by
  rw [loadArguments.eq_def] at h
  split at h
  · exact h
  · split at h <;> cases h

theorem tell_ignored_of_unmarked {file : Option Path} (h : ∀ path ∈ file, '[' ∉ path.text) :
    (file.toList.mapM fun path => (Diagnostic.argumentsFileIgnored path).tell kit.console) =
      .ok (file.toList.map .argumentsFileIgnored) := by
  cases file with
  | none => rfl
  | some path =>
    simp only [Option.toList_some, List.mapM_cons, List.mapM_nil, tell_ignored (h path rfl)]
    rfl

/-- The query of a plan whose arguments file can be told of. -/
theorem BuildPlan.query_of_unmarked (h : p.Unmarked) : p.query kit files =
    match readTemplate files p.template false with
    | .error e => ⟨[], .error (.template e)⟩
    | .ok template =>
      let loaded := loadArguments files p.arguments p.argumentsFile kit.readYaml kit.stack
      ⟨loaded.ignored.toList.map .argumentsFileIgnored, p.build kit template loaded.args⟩ := by
  rw [query]
  cases readTemplate files p.template false with
  | error e => rfl
  | ok template =>
    have htold := @tell_ignored_of_unmarked kit (loadArguments files p.arguments p.argumentsFile
      kit.readYaml kit.stack).ignored fun path hpath => h path (mem_ignored hpath)
    simp only [htold]

/-- The query that the library functions make of what a plan names, one after the other. -/
def BuildPlan.Makes (kit : Toolkit) (files : FileTree) (p : BuildPlan) (query : Text) : Prop :=
  ∃ template args, readTemplate files p.template false = .ok template ∧
    (loadArguments files p.arguments p.argumentsFile kit.readYaml kit.stack).args = .ok args ∧
    buildQuery p.mode template (.list args) = .ok query ∧
    (p.validates = true → validate query p.dialect kit.readSql = .ok ())

theorem BuildPlan.build_eq_ok_iff {template : Text}
    {loaded : Except ArgumentsError (List Value)} : p.build kit template loaded = .ok query ↔
      ∃ args, loaded = .ok args ∧ buildQuery p.mode template (.list args) = .ok query ∧
        (p.validates = true → validate query p.dialect kit.readSql = .ok ()) := by
  rw [build.eq_def]
  cases loaded with
  | error e => simp
  | ok args =>
    simp only [Except.ok.injEq, exists_eq_left']
    cases buildQuery p.mode template (.list args) with
    | error e => simp
    | ok built =>
      by_cases hvalidates : p.validates = true
      · simp only [hvalidates, ↓reduceIte]
        cases hvalid : validate built p.dialect kit.readSql with
        | error e =>
          refine iff_of_false nofun ?_
          rintro ⟨⟨⟩, hok⟩
          cases hvalid.symm.trans (hok trivial)
        | ok _ =>
          simp only [Except.ok.injEq, forall_const, iff_self_and]
          rintro rfl
          exact hvalid
      · simp [hvalidates]

theorem BuildPlan.query_eq_ok_iff (h : p.Unmarked) : (p.query kit files).result = .ok query ↔
    p.Makes kit files query := by
  rw [query_of_unmarked h, Makes]
  cases readTemplate files p.template false with
  | error e => simp
  | ok template => simp [build_eq_ok_iff]

end

section
variable {t : Told Failure Delivery}

theorem Told.outcome_of_ok {d : Delivery} (h : t.result = .ok d) :
    t.outcome = ⟨.done, d.output, t.diagnostics, d.files⟩ := by
  rw [outcome, h]

theorem Told.outcome_of_error {failure : Failure} (h : t.result = .error failure) :
    t.outcome = ⟨.failed failure.cause, [],
      t.diagnostics ++ (if failure.cause.isReported then [.error failure.cause] else []),
      failure.files⟩ := by
  rw [outcome, h]

theorem Told.exitCode_outcome_eq_zero_iff :
    t.outcome.status.exitCode = 0 ↔ ∃ d, t.result = .ok d := by
  rw [outcome]
  cases t.result <;> simp [Status.exitCode]

/-- A command that is not done has no output. -/
theorem Told.outcome_of_exitCode_ne_zero (h : t.outcome.status.exitCode ≠ 0) :
    t.outcome.status.exitCode = 1 ∧ t.outcome.output = [] ∧
      ∃ failure, t.result = .error failure ∧ t.outcome.files = failure.files := by
  cases hresult : t.result with
  | ok d => exact absurd (exitCode_outcome_eq_zero_iff.mpr ⟨d, hresult⟩) h
  | error failure =>
    rw [outcome_of_error hresult]
    exact ⟨rfl, rfl, failure, rfl, rfl⟩

end

section
variable {kit : Toolkit} {files : FileTree}

/-- A usable command line runs as the request that it holds. -/
theorem run_of_usable {words : List Text} {r : Request} (hwords : Request.ofWords? words = some r)
    (husable : r.isUsable files = true) : run files words kit = r.run kit files := by
  simp only [run, hwords, Option.filter, husable, ↓reduceIte]

theorem run_of_unusable {words : List Text} {r : Request}
    (hwords : Request.ofWords? words = some r) (h : r.isUsable files = false) :
    run files words kit = ⟨.unusable, [], [], files⟩ := by
  simp [run, hwords, Option.filter, h]

theorem Request.told_of_load {r : Request} {s : Settings} {w : Option SettingsWarning}
    (hload : Settings.loadOn kit.stack files none = .ok (s, w)) :
    (r.told kit files).result = (r.perform kit files s).result := by
  simp only [told, hload]

theorem Request.told_ok_iff {r : Request} {d : Delivery} : (r.told kit files).result = .ok d ↔
    ∃ s w, Settings.loadOn kit.stack files none = .ok (s, w) ∧
      (r.perform kit files s).result = .ok d := by
  rw [told]
  cases Settings.loadOn kit.stack files none with
  | error e => simp
  | ok loaded =>
    obtain ⟨s, w⟩ := loaded
    simp

end

section
variable {kit : Toolkit} {files : FileTree} {s : Settings} {r : BuildRequest} {query : Text}

/-- The arguments file where the settings name none. -/
theorem chooseArgumentsFile_default (given : Option Text) :
    chooseArgumentsFile kit files given none = .ok (given.map .ofText, []) := by
  cases given <;> rfl

theorem chooseSwitch_default (given : Option Bool) :
    chooseSwitch given none = given.getD false := by
  cases given <;> rfl

/-- The plan of a build where there are no settings. -/
def BuildRequest.plain (r : BuildRequest) : BuildPlan where
  template := .ofText r.template
  arguments := r.arguments
  argumentsFile := r.argumentsFile.map .ofText
  mode := .ofBool (r.consumeSkipped.getD false)
  validates := r.validates.getD false
  dialect := chooseText r.dialect none Validation.defaultDialect
  outputFile := r.outputFile.map .ofText

theorem plan_default (r : BuildRequest) : r.plan kit files .default = .ok (r.plain, []) := by
  simp only [BuildRequest.plan, Settings.default, chooseArgumentsFile_default,
    chooseSwitch_default]
  rfl

/-- No file that is named for a build or in the settings has a mark in its name. -/
def BuildRequest.Unmarked (s : Settings) (r : BuildRequest) : Prop :=
  ∀ name, r.outputFile = some name ∨ r.argumentsFile = some name ∨ s.argumentsFile = some name →
    '[' ∉ name

theorem exists_name_of_chooseArgumentsFile {given set : Option Text} {path : Path}
    {told : List Diagnostic}
    (h : chooseArgumentsFile kit files given set = .ok (some path, told)) :
    ∃ name, (given = some name ∨ set = some name) ∧ path = .ofText name := by
  cases given with
  | some name =>
    cases h
    exact ⟨name, .inl rfl, rfl⟩
  | none =>
    rw [chooseArgumentsFile.eq_def] at h
    cases hset : set.filter (· ≠ []) with
    | none =>
      simp only [hset] at h
      cases h
    | some name =>
      simp only [hset] at h
      split at h
      · cases h
      split at h
      · cases h
        exact ⟨name, .inr (Option.filter_eq_some_iff.mp hset).1, rfl⟩
      · obtain ⟨_, -, heq⟩ := Outcome.map_eq_ok_iff.mp h
        cases heq

theorem exists_choose_of_plan {plan : BuildPlan} {told : List Diagnostic}
    (h : r.plan kit files s = .ok (plan, told)) :
    chooseArgumentsFile kit files r.argumentsFile s.argumentsFile = .ok (plan.argumentsFile, told) ∧
      plan.outputFile = r.outputFile.map .ofText := by
  obtain ⟨⟨file, diagnostics⟩, hchoose, heq⟩ := Outcome.map_eq_ok_iff.mp h
  cases heq
  exact ⟨hchoose, rfl⟩

theorem BuildRequest.Unmarked.plan {plan : BuildPlan} {told : List Diagnostic}
    (hname : r.Unmarked s) (h : r.plan kit files s = .ok (plan, told)) : plan.Unmarked := by
  intro path hpath
  have hchoose := (exists_choose_of_plan h).1
  rw [hpath] at hchoose
  obtain ⟨name, hwhich, rfl⟩ := exists_name_of_chooseArgumentsFile hchoose
  exact Path.not_mem_text_ofText (hname name (.inr hwhich))

/-- What is said of the output file can be shown. -/
theorem BuildRequest.Unmarked.shown (hname : r.Unmarked s) :
    ∀ path, r.outputFile.map Path.ofText = some path →
      ∃ line, kit.console.marked .success (written queryNoun path) = .ok line := by
  intro path hpath
  obtain ⟨name, hsome, rfl⟩ := Option.map_eq_some_iff.mp hpath
  apply kit.console.unmarked
  rw [written, List.mem_append, not_or]
  exact ⟨by decide, Path.not_mem_text_ofText (hname name (.inl hsome))⟩

/-- A build under settings has a plan, of which the library makes a query. -/
def BuildRequest.Makes (kit : Toolkit) (files : FileTree) (s : Settings) (r : BuildRequest)
    (query : Text) : Prop :=
  ∃ plan told, r.plan kit files s = .ok (plan, told) ∧ plan.Makes kit files query

/-- A build under settings succeeds with a query: the library makes it, and it can be written to
where it goes. -/
def BuildRequest.Succeeds (kit : Toolkit) (files : FileTree) (s : Settings) (r : BuildRequest)
    (query : Text) : Prop :=
  r.Makes kit files s query ∧ Writable kit files queryNoun query (r.outputFile.map .ofText)

/-- A build under settings makes a query that fails to be delivered when its file is open already. -/
def BuildRequest.FailsLate (kit : Toolkit) (files : FileTree) (s : Settings) (r : BuildRequest)
    (query : Text) (after : FileTree) : Prop :=
  r.Makes kit files s query ∧
    Command.FailsLate kit files queryNoun query (r.outputFile.map .ofText) after

/-- A query is the output, or it is what a file holds that is the only one written. -/
def Delivered (kit : Toolkit) (files : FileTree) (query : Text) (o : Outcome) : Option Path → Prop
  | none => o.output = query ++ ['\n'] ∧ o.files = files
  | some path =>
    kit.console.marked .success ("Query written to ".toList ++ path.text) = .ok o.output ∧
    o.files.read path = .ok (Text.Utf8.encode query) ∧
    Text.Utf8.decode (Text.Utf8.encode query) = .ok query ∧
    ∀ place, (files.target path).place? ≠ some place → o.files.at? place = files.at? place

/-- The result of a build is that of a delivery, or an error before it. -/
theorem perform_build_cases (kit : Toolkit) (files : FileTree) (hname : r.Unmarked s) :
    (∃ e, ((Request.build r).perform kit files s).result = .error ⟨e, files⟩ ∧
        ∀ query, ¬ r.Makes kit files s query) ∨
      ∃ query, r.Makes kit files s query ∧ (∀ other, r.Makes kit files s other → other = query) ∧
        ((Request.build r).perform kit files s).result =
          deliver kit files (r.outputFile.map .ofText) queryNoun (.ofLine query) := by
  cases hplan : r.plan kit files s with
  | error e =>
    refine .inl ⟨e, by simp only [Request.perform, hplan], ?_⟩
    rintro query ⟨plan, told, hother, -⟩
    cases hplan.symm.trans hother
  | ok planned =>
    obtain ⟨plan, told⟩ := planned
    have hmakes (query : Text) :
        r.Makes kit files s query ↔ (plan.query kit files).result = .ok query := by
      rw [BuildPlan.query_eq_ok_iff (hname.plan hplan)]
      constructor
      · rintro ⟨plan', told', hplan', h⟩
        cases hplan.symm.trans hplan'
        exact h
      · intro h
        exact ⟨plan, told, hplan, h⟩
    simp only [hmakes, Request.perform, hplan, (exists_choose_of_plan hplan).2]
    cases (plan.query kit files).result with
    | error e => exact .inl ⟨e, rfl, nofun⟩
    | ok query => exact .inr ⟨query, rfl, fun other h => (Except.ok.inj h).symm, rfl⟩

theorem exists_perform_build_ok_iff (hname : r.Unmarked s) :
    (∃ d, ((Request.build r).perform kit files s).result = .ok d) ↔
      ∃ query, r.Succeeds kit files s query := by
  rcases perform_build_cases kit files hname with
    ⟨e, hresult, hnone⟩ | ⟨query, hmakes, hunique, hresult⟩
  · rw [hresult]
    refine iff_of_false nofun ?_
    rintro ⟨query, hmakes, -⟩
    exact hnone query hmakes
  · rw [hresult, exists_deliver_ok_iff hname.shown]
    constructor
    · intro hwritable
      exact ⟨query, hmakes, hwritable⟩
    · rintro ⟨other, hother, hwritable⟩
      cases hunique other hother
      exact hwritable

theorem exitCode_run_build_eq_zero_iff
    (hname : ∀ s w, Settings.loadOn kit.stack files none = .ok (s, w) → r.Unmarked s) :
    ((Request.build r).run kit files).status.exitCode = 0 ↔ ∃ s w query,
      Settings.loadOn kit.stack files none = .ok (s, w) ∧ r.Succeeds kit files s query := by
  rw [Request.run, Told.exitCode_outcome_eq_zero_iff]
  constructor
  · rintro ⟨d, hd⟩
    obtain ⟨s, w, hload, hperform⟩ := Request.told_ok_iff.mp hd
    obtain ⟨query, hquery⟩ := (exists_perform_build_ok_iff (hname s w hload)).mp ⟨d, hperform⟩
    exact ⟨s, w, query, hload, hquery⟩
  · rintro ⟨s, w, query, hload, hquery⟩
    obtain ⟨d, hd⟩ := (exists_perform_build_ok_iff (hname s w hload)).mpr ⟨query, hquery⟩
    exact ⟨d, Request.told_ok_iff.mpr ⟨s, w, hload, hd⟩⟩

section
variable {w : Option SettingsWarning} (hname : r.Unmarked s)
  (hload : Settings.loadOn kit.stack files none = .ok (s, w))
include hname hload

theorem told_build_of_makes (h : r.Makes kit files s query) :
    ((Request.build r).told kit files).result =
      deliver kit files (r.outputFile.map .ofText) queryNoun (.ofLine query) := by
  rw [Request.told_of_load hload]
  rcases perform_build_cases kit files hname with
    ⟨e, -, hnone⟩ | ⟨other, -, hunique, hresult⟩
  · exact absurd h (hnone query)
  · rw [hresult, hunique query h]

theorem Delivered.of_succeeds (h : r.Succeeds kit files s query) :
    Delivered kit files query ((Request.build r).run kit files) (r.outputFile.map .ofText) := by
  obtain ⟨hmakes, hwritable⟩ := h
  obtain ⟨d, hdeliver⟩ : ∃ d, deliver kit files (r.outputFile.map .ofText) queryNoun
      (.ofLine query) = .ok d := (exists_deliver_ok_iff hname.shown).mpr hwritable
  have hdone := (told_build_of_makes hname hload hmakes).trans hdeliver
  rw [Request.run, Told.outcome_of_ok hdone]
  generalize r.outputFile.map Path.ofText = outputFile at hdeliver
  cases deliver_eq_iff.mp hdeliver with
  | shown => exact ⟨rfl, rfl⟩
  | said _ _ writes tells _ =>
    exact ⟨tells, FileTree.read_of_write writes, Text.Utf8.decode_encode query,
      fun place hplace => FileTree.at?_of_write writes hplace⟩

/-- A build that fails late leaves what it has written. -/
theorem run_build_of_failsLate {after : FileTree} (h : r.FailsLate kit files s query after) :
    let o := (Request.build r).run kit files
    o.status.exitCode = 1 ∧ o.output = [] ∧ o.files = after := by
  obtain ⟨hmakes, hlate⟩ := h
  obtain ⟨message, hdeliver⟩ := @Command.FailsLate.deliver_eq _ _ _ (.ofLine query) _ _ hlate
  have htold := (told_build_of_makes hname hload hmakes).trans hdeliver
  rw [Request.run, Told.outcome_of_error htold]
  exact ⟨rfl, rfl, rfl⟩

theorem files_of_told_build_error {failure : Failure}
    (h : ((Request.build r).told kit files).result = .error failure) :
    failure.files = files ∨ ∃ query, r.FailsLate kit files s query failure.files := by
  rw [Request.told_of_load hload] at h
  rcases perform_build_cases kit files hname with
    ⟨e, hresult, -⟩ | ⟨query, hmakes, -, hresult⟩
  · cases hresult.symm.trans h
    exact .inl rfl
  · rw [hresult] at h
    exact (files_of_deliver_eq_error hname.shown h).imp_right fun hlate => ⟨query, hmakes, hlate⟩

end

/-- Only half a surrogate pair, in the query or in the name of its file, makes a build fail late. -/
theorem BuildRequest.FailsLate.exists_half {after : FileTree}
    (h : r.FailsLate kit files s query after) : ∃ c, (Text.half? c).isSome = true ∧
      (c ∈ query ∨ ∃ name, r.outputFile = some name ∧ c ∈ name) := by
  obtain ⟨c, hhalf, hwhere⟩ := h.2.exists_half (by decide)
  refine ⟨c, hhalf, hwhere.imp_right ?_⟩
  rintro ⟨path, hpath, hc⟩
  obtain ⟨name, hsome, rfl⟩ := Option.map_eq_some_iff.mp hpath
  refine ⟨name, hsome, ?_⟩
  rcases Path.mem_text_ofText hc with rfl | rfl | hmem
  · cases hhalf
  · cases hhalf
  · exact hmem

theorem files_of_run_build_error
    (hname : ∀ s w, Settings.loadOn kit.stack files none = .ok (s, w) → r.Unmarked s)
    {failure : Failure} (h : ((Request.build r).told kit files).result = .error failure) :
    failure.files = files ∨ ∃ s w query, Settings.loadOn kit.stack files none = .ok (s, w) ∧
      r.FailsLate kit files s query failure.files ∧ ∃ c, (Text.half? c).isSome = true ∧
        (c ∈ query ∨ ∃ name, r.outputFile = some name ∧ c ∈ name) := by
  cases hload : Settings.loadOn kit.stack files none with
  | error e =>
    simp only [Request.told, hload] at h
    cases h
    exact .inl rfl
  | ok loaded =>
    obtain ⟨s, w⟩ := loaded
    refine (files_of_told_build_error (hname s w hload) hload h).imp_right ?_
    rintro ⟨query, hlate⟩
    exact ⟨s, w, query, rfl, hlate, hlate.exists_half⟩

/-- A build is what the library does, all or nothing: it is done just when the settings are loaded
and it succeeds with a query, which it delivers. Otherwise there is no output and no file is
changed, but for halves of surrogate pairs, which have no encoding: the file is empty when one is
found in the query, and it is written when one is found in its name. Settings in text are loaded
unless they are nested too deep for the stack or an integer in them is too long. Names of files have
no marks in them; all files may be read and written, and there is room for what is written. -/
theorem run_build_all_or_nothing {words : List Text}
    (hwords : Request.ofWords? words = some (.build r))
    (husable : (Request.build r).isUsable files = true)
    (htext : Settings.found files = true → ∃ content text,
      files.read Settings.defaultPath = .ok content ∧ Text.Utf8.decode content = .ok text)
    (hname : ∀ s w, Settings.loadOn kit.stack files none = .ok (s, w) → r.Unmarked s) :
    let o := run files words kit
    (o.status.exitCode = 0 ↔ ∃ s w query,
        Settings.loadOn kit.stack files none = .ok (s, w) ∧ r.Succeeds kit files s query) ∧
      (∀ s w query, Settings.loadOn kit.stack files none = .ok (s, w) →
        r.Succeeds kit files s query →
          Delivered kit files query o (r.outputFile.map .ofText)) ∧
      (o.status.exitCode ≠ 0 → o.status.exitCode = 1 ∧ o.output = [] ∧
        (o.files = files ∨ ∃ s w query, Settings.loadOn kit.stack files none = .ok (s, w) ∧
          r.FailsLate kit files s query o.files ∧ ∃ c, (Text.half? c).isSome = true ∧
            (c ∈ query ∨ ∃ name, r.outputFile = some name ∧ c ∈ name))) ∧
      (∀ s w query after, Settings.loadOn kit.stack files none = .ok (s, w) →
        r.FailsLate kit files s query after →
          o.status.exitCode = 1 ∧ o.output = [] ∧ o.files = after) ∧
      ((∃ s w, Settings.loadOn kit.stack files none = .ok (s, w)) ↔
        ¬ Settings.TooDeep kit.stack files ∧ ¬ Settings.TooLong kit.stack files) := by
  have hrun : run files words kit = (Request.build r).run kit files := run_of_usable hwords husable
  dsimp only
  rw [hrun]
  refine ⟨exitCode_run_build_eq_zero_iff hname, ?_, fun hexit => ?_, ?_,
    Settings.exists_loadOn_ok_iff htext⟩
  · intro s w query hload hquery
    exact .of_succeeds (hname s w hload) hload hquery
  · obtain ⟨hone, hempty, failure, herror, hfiles⟩ := Told.outcome_of_exitCode_ne_zero hexit
    refine ⟨hone, hempty, ?_⟩
    rw [Request.run, hfiles]
    exact files_of_run_build_error hname herror
  · intro s w query after hload hlate
    exact run_build_of_failsLate (hname s w hload) hload hlate

/-- A query that goes to a file. -/
theorem run_build_all_or_nothing_written :
    let files : FileTree := ⟨[(["t.sql".toList], .file (Text.Utf8.encode "LIMIT ?d".toList))], []⟩
    let words := ["build", "t.sql", "-a", "5", "-o", "q.sql"].map String.toList
    Delivered .standard files "LIMIT 5".toList (run files words)
      (some (.ofText "q.sql".toList)) := by
  intro files words
  let r : BuildRequest :=
    ⟨"t.sql".toList, ["5".toList], none, none, none, none, some "q.sql".toList⟩
  have hfound : Settings.found files = false := by decide +kernel
  have hload : Settings.loadOn Toolkit.standard.stack files none = .ok (.default, none) :=
    Settings.loadOn_of_not_found hfound
  have hmakes : r.Makes .standard files .default "LIMIT 5".toList := by
    refine ⟨r.plain, [], plan_default r, "LIMIT ?d".toList, [.int 5], ?_, rfl, rfl, ?_⟩
    · decide +kernel
    · exact nofun
  have hline : Toolkit.standard.console.marked .success
      (written queryNoun (.ofText "q.sql".toList)) =
        .ok "Success: Query written to q.sql\n".toList := by decide +kernel
  have hwritable : Writable .standard files queryNoun "LIMIT 5".toList
      (r.outputFile.map .ofText) := by
    refine ⟨by decide +kernel, fun _ _ => rfl, ?_, ?_⟩
    · rintro path ⟨⟩
      exact ⟨_, FileTree.write_eq_ok_iff.mpr ⟨["q.sql".toList], by decide +kernel, rfl⟩⟩
    · rintro path line ⟨⟩ hother
      cases hline.symm.trans hother
      decide +kernel
  have hwords : Request.ofWords? words = some (.build r) := by decide +kernel
  have husable : (Request.build r).isUsable files = true := by decide +kernel
  have htext : Settings.found files = true → ∃ content text,
      files.read Settings.defaultPath = .ok content ∧ Text.Utf8.decode content = .ok text := by
    rw [hfound]
    exact nofun
  have hname : ∀ s w, Settings.loadOn Toolkit.standard.stack files none = .ok (s, w) →
      r.Unmarked s := by
    intro s w hother
    cases hload.symm.trans hother
    rintro name (⟨⟨⟩⟩ | ⟨⟨⟩⟩ | ⟨⟨⟩⟩)
    decide
  exact (run_build_all_or_nothing hwords husable htext hname).2.1 _ _ _ hload ⟨hmakes, hwritable⟩

-- The directory of the file to be written is missing; the query does not go to the output instead.
example :
    let files : FileTree := ⟨[(["t.sql".toList], .file (Text.Utf8.encode "SELECT 1".toList))], []⟩
    let o := run files (["build", "t.sql", "-o", "a/q.sql"].map String.toList)
    o.status.exitCode = 1 ∧ o.output = [] ∧ o.files = files := by decide +kernel

-- Half a surrogate pair has no encoding, and the file that was to be written is empty.
example :
    let files : FileTree := ⟨[(["t.sql".toList], .file (Text.Utf8.encode "?a".toList))], []⟩
    let o := run files (["build", "t.sql", "-a", "[\"\\ud800\"]", "-o", "q.sql"].map String.toList)
    o.status.exitCode = 1 ∧ o.output = [] ∧ o.files = files.set ["q.sql".toList] (.file []) ∧
      o.report .standard = ("Error: 'utf-8' codec can't encode character '\\ud800' in position 1: " ++
        "surrogates not allowed\n").toList := by decide +kernel

set_option maxRecDepth 20000 in
/-- An integer that is too long in the settings file fails a build that the library would do under
the default settings. -/
theorem run_build_long_setting :
    let content := Text.Utf8.encode ("x = ".toList ++ List.replicate 4301 '1')
    let files : FileTree := ⟨[(["t.sql".toList], .file (Text.Utf8.encode "SELECT 1".toList)),
      (["querybinder.toml".toList], .file content)], []⟩
    let words := ["build", "t.sql"].map String.toList
    let r : BuildRequest := ⟨"t.sql".toList, [], none, none, none, none, none⟩
    Request.ofWords? words = some (.build r) ∧ (Request.build r).isUsable files = true ∧
      (∃ text, files.read Settings.defaultPath = .ok content ∧
        Text.Utf8.decode content = .ok text) ∧
      r.Succeeds .standard files .default "SELECT 1".toList ∧
      (run files words).status.exitCode = 1 := by
  intro content files words r
  have hwords : Request.ofWords? words = some (.build r) := by decide +kernel
  have husable : (Request.build r).isUsable files = true := by decide +kernel
  have htarget : files.target Settings.defaultPath =
      .file ["querybinder.toml".toList] content := FileTree.follow_file (by decide) rfl
  have hfound : Settings.found files = true := by rw [Settings.found, FileTree.isFile, htarget]
  have hread : files.read Settings.defaultPath = .ok content := by rw [FileTree.read, htarget]
  have htoml : (fun _ => ()) <$> Toml.read ("x = ".toList ++ List.replicate 4301 '1') =
      .error (.integerTooLong 4301) := by decide +kernel
  have hroom : Stack.standard.fault? .settingsFile ("x = ".toList ++ List.replicate 4301 '1') =
      none := by
    apply Stack.standard.shallow
    rw [List.countP_append, List.countP_replicate]
    decide
  have hlong : Settings.HoldsToml .standard files Settings.defaultPath
      (.error (.integerTooLong 4301)) :=
    ⟨_, ⟨by decide, hread⟩, hroom, Outcome.map_eq_error_iff.mp htoml⟩
  have hload : Settings.loadOn .standard files none = .error (.content (.numeralTooLong 4301)) :=
    (Settings.loadOn_of_found hfound).trans hlong.readOn_eq
  refine ⟨hwords, husable, ⟨_, hread, Text.Utf8.decode_encode _⟩, ⟨?_, .onOutput ?_⟩, ?_⟩
  · refine ⟨r.plain, [], plan_default r, "SELECT 1".toList, [], by decide +kernel, rfl, rfl, ?_⟩
    rintro ⟨⟩
  · decide +kernel
  · have htold : ((Request.build r).told .standard files).result =
        .error ⟨.settings (.numeralTooLong 4301), files⟩ := by
      simp only [Request.told, Toolkit.standard, hload, Error.ofSettings]
    rw [run_of_usable hwords husable, Request.run, Told.outcome_of_error htold]
    rfl

end

end Command
end SqlTemplate
