import SqlTemplate.Arguments.File
import SqlTemplate.Command.Error
import SqlTemplate.Command.Request
import SqlTemplate.Query
import SqlTemplate.Report.Export
import SqlTemplate.Report.Table

/-! Commands in a directory. A command writes at most one file, and that after all else. Beyond the
tree of its files a directory has no limits here: every file may be read and written, and there is
room for all that is written. -/
namespace SqlTemplate.Command

/-- What a command relies on: the readers of YAML documents and of queries in a dialect, the
interpreter's stack and its encoding of texts, the console, and why the system refuses a path that
leads nowhere, as one with a name that is too long. -/
structure Toolkit where
  readYaml : YamlReader
  readSql : SqlReader
  stack : Stack
  encoder : Encoder
  console : Console
  refusal? : Path → Option String

def Toolkit.standard : Toolkit :=
  ⟨Yaml.read, Validation.readSql, .standard, .standard, .standard, fun _ => none⟩

/-- The first choice that says something, the command line before the settings; an empty text says
nothing. -/
def chooseText (given set : Option Text) (otherwise : Text) : Text :=
  ((given.filter (· ≠ [])).or (set.filter (· ≠ []))).getD otherwise

/-- The first choice that is made, the command line before the settings. -/
def chooseSwitch (given set : Option Bool) : Bool := (given.or set).getD false

/-- A build with all choices made. -/
structure BuildPlan where
  template : Path
  arguments : List Text
  argumentsFile : Option Path
  mode : SkipMode
  validates : Bool
  dialect : Text
  outputFile : Option Path
  deriving DecidableEq, Repr

/-- The arguments file of the command line, or that of the settings if it is there. -/
def chooseArgumentsFile (kit : Toolkit) (files : FileTree) (given set : Option Text) :
    Except Error (Option Path × List Diagnostic) :=
  match given, set.filter (· ≠ []) with
  | some text, _ => .ok (some (.ofText text), [])
  | none, none => .ok (none, [])
  | none, some text =>
    let path := Path.ofText text
    match kit.refusal? path with
    | some message => .error (.unforeseen message)
    | none =>
      if files.exists? path then .ok (some path, [])
      else (fun told => (none, [told])) <$> (Diagnostic.argumentsFileMissing path).tell kit.console

/-- The plan of a request under settings, with what is told about it. -/
def BuildRequest.plan (kit : Toolkit) (files : FileTree) (s : Settings) (r : BuildRequest) :
    Except Error (BuildPlan × List Diagnostic) :=
  (fun (argumentsFile, diagnostics) =>
    ({ template := .ofText r.template
       arguments := r.arguments
       argumentsFile
       mode := .ofBool (chooseSwitch r.consumeSkipped s.consumeSkipped)
       validates := chooseSwitch r.validates s.validates
       dialect := chooseText r.dialect s.dialect Validation.defaultDialect
       outputFile := r.outputFile.map .ofText }, diagnostics)) <$>
    chooseArgumentsFile kit files r.argumentsFile s.argumentsFile

/-- A result with what was told on the way to it. -/
structure Told (ε α : Type) where
  diagnostics : List Diagnostic
  result : Except ε α

/-- The query of a plan and loaded arguments: it is built and, if that is asked for, validated. -/
def BuildPlan.build (kit : Toolkit) (p : BuildPlan) (template : Text)
    (loaded : Except ArgumentsError (List Value)) : Except Error Text :=
  match loaded with
  | .error e => .error (.arguments e)
  | .ok args =>
    match buildQuery p.mode template (.list args) with
    | .error e => .error (.build e)
    | .ok query =>
      if p.validates then
        match validate query p.dialect kit.readSql with
        | .error e => .error (.validation e)
        | .ok _ => .ok query
      else .ok query

/-- The query of a plan: the template is read first, then a file that is passed over is told of, and
then the arguments are read. -/
def BuildPlan.query (kit : Toolkit) (files : FileTree) (p : BuildPlan) : Told Error Text :=
  match readTemplate files p.template false with
  | .error e => ⟨[], .error (.template e)⟩
  | .ok template =>
    let loaded := loadArguments files p.arguments p.argumentsFile kit.readYaml kit.stack
    match loaded.ignored.toList.mapM fun path =>
      (Diagnostic.argumentsFileIgnored path).tell kit.console with
    | .error e => ⟨[], .error e⟩
    | .ok told => ⟨told, p.build kit template loaded.args⟩

/-- The formats in which a template's structure is shown. -/
inductive ReportFormat
  | table
  | json
  deriving DecidableEq, Repr

def ReportFormat.ofName? (name : Text) : Option ReportFormat :=
  if name = "text".toList then some .table
  else if name = "json".toList then some .json
  else none

/-- A text as it goes to a file and as it goes to the output. -/
structure Product where
  inFile : Text
  onOutput : Text
  deriving DecidableEq, Repr

/-- A text that is one line of output, or several of which the last has no end. -/
def Product.ofLine (text : Text) : Product := ⟨text, text ++ ['\n']⟩

/-- What a query, or the report on a template, is called. -/
def queryNoun : Text := "Query".toList
def reportNoun : Text := "Nodes".toList

def ReportFormat.product (p : ParsedTemplate) : ReportFormat → Product
  | .table => ⟨Report.text p, Report.text p⟩
  | .json => .ofLine p.exported

/-- The report on a template; the format is looked at before the template is read. -/
def InspectRequest.report (files : FileTree) (s : Settings) (r : InspectRequest) :
    Except Error Product :=
  let name := chooseText r.format s.outputFormat "text".toList
  match ReportFormat.ofName? name with
  | none => .error (.unknownFormat name)
  | some format =>
    match readTemplate files (.ofText r.template) false with
    | .error e => .error (.template e)
    | .ok template =>
      match SqlTemplate.parse template with
      | .error e => .error (.build (.malformed e))
      | .ok parsed => .ok (format.product parsed)

/-- What goes to the output, and the directory afterwards. -/
structure Delivery where
  output : Text
  files : FileTree
  deriving DecidableEq, Repr

/-- Why a command fails, and the directory afterwards. -/
structure Failure where
  cause : Error
  files : FileTree

/-- Gives a product to the output, or writes it to a file and says so on the output. A file is empty
once it is opened, and stays so if what is to be written has no encoding. -/
def deliver (kit : Toolkit) (files : FileTree) (outputFile : Option Path) (noun : Text)
    (p : Product) : Except Failure Delivery :=
  match outputFile with
  | none =>
    match kit.encoder.fault? p.inFile with
    | some message => .error ⟨.unencodable message, files⟩
    | none => .ok ⟨p.onOutput, files⟩
  | some path =>
    match kit.refusal? path with
    | some message => .error ⟨.unforeseen message, files⟩
    | none =>
      match files.write path [] with
      | .error e => .error ⟨.write e, files⟩
      | .ok opened =>
        match kit.encoder.fault? p.inFile with
        | some message => .error ⟨.unencodable message, opened⟩
        | none =>
          match opened.write path (Text.Utf8.encode p.inFile) with
          | .error e => .error ⟨.write e, opened⟩
          | .ok written =>
            match kit.console.marked .success (noun ++ " written to ".toList ++ path.text) with
            | .error message => .error ⟨.unforeseen message, written⟩
            | .ok line =>
              match kit.encoder.fault? line with
              | some message => .error ⟨.unencodable message, written⟩
              | none => .ok ⟨line, written⟩

/-- Delivers a result, if there is one. -/
def deliverResult {α : Type} (kit : Toolkit) (files : FileTree) (outputFile : Option Path)
    (noun : Text) (product : α → Product) : Except Error α → Except Failure Delivery
  | .error e => .error ⟨e, files⟩
  | .ok a => deliver kit files outputFile noun (product a)

/-- A request under settings. -/
def Request.perform (kit : Toolkit) (files : FileTree) (s : Settings) :
    Request → Told Failure Delivery
  | .build r =>
    match r.plan kit files s with
    | .error e => ⟨[], .error ⟨e, files⟩⟩
    | .ok (plan, before) =>
      let query := plan.query kit files
      ⟨before ++ query.diagnostics,
        deliverResult kit files plan.outputFile queryNoun .ofLine query.result⟩
  | .inspect r =>
    ⟨[], deliverResult kit files (r.outputFile.map .ofText) reportNoun id (r.report files s)⟩

/-- Whether the files that a command line names are there: the template has to be a file. -/
def Request.isUsable (files : FileTree) : Request → Bool
  | .build r => isTemplate r.template && r.argumentsFile.all isPresent
  | .inspect r => isTemplate r.template
where
  /-- Whether a path leads to a file. -/
  isTemplate (text : Text) : Bool :=
    match files.targetOf text with
    | .file .. => true
    | _ => false
  /-- Whether a path leads to anything. -/
  isPresent (text : Text) : Bool :=
    match files.targetOf text with
    | .file .. | .directory => true
    | _ => false

/-- How a command ends: done, failed, or not begun because the command line makes no sense. -/
inductive Status
  | done
  | failed (cause : Error)
  | unusable

def Status.exitCode : Status → Nat
  | .done => 0
  | .failed _ => 1
  | .unusable => 2

structure Outcome where
  status : Status
  output : Text
  diagnostics : List Diagnostic
  files : FileTree

/-- The outcome of what is told; an error that is reported is told last. -/
def Told.outcome (t : Told Failure Delivery) : Outcome :=
  match t.result with
  | .ok delivery => ⟨.done, delivery.output, t.diagnostics, delivery.files⟩
  | .error ⟨e, files⟩ =>
    ⟨.failed e, [], t.diagnostics ++ (if e.isReported then [.error e] else []), files⟩

/-- What a request in a directory tells, under the settings of that directory. -/
def Request.told (kit : Toolkit) (files : FileTree) (r : Request) : Told Failure Delivery :=
  match Settings.loadOn kit.stack files none with
  | .error e => ⟨[], .error ⟨.ofSettings e, files⟩⟩
  | .ok (settings, warning) =>
    let done := r.perform kit files settings
    { done with diagnostics := warning.toList.map .settings ++ done.diagnostics }

/-- A request in a directory. -/
def Request.run (kit : Toolkit) (files : FileTree) (r : Request) : Outcome :=
  (r.told kit files).outcome

/-- The paths that a command line and the settings in a directory name. -/
def paths (files : FileTree) (words : List Text) : List Path :=
  let ofRequest := (Request.ofWords? words).toList.flatMap Request.paths
  match Settings.load files none with
  | .ok (settings, _) => ofRequest ++ settings.argumentsFile.toList.map .ofText
  | .error _ => ofRequest

/-- A command line in a directory. -/
def run (files : FileTree) (words : List Text) (kit : Toolkit := .standard) : Outcome :=
  match (Request.ofWords? words).filter (·.isUsable files) with
  | none => ⟨.unusable, [], [], files⟩
  | some r => r.run kit files

/-- What a command writes beside its output. -/
def Outcome.report (console : Console) (o : Outcome) : Text :=
  o.diagnostics.flatMap (·.textOn console)

end SqlTemplate.Command
