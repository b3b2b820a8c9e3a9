import SqlTemplate.Command.Options
import SqlTemplate.File.Path

/-! What a command line asks for. -/
namespace SqlTemplate.Command

/-- A query to build. What is none was not said. -/
structure BuildRequest where
  template : Text
  arguments : List Text
  argumentsFile : Option Text
  consumeSkipped : Option Bool
  validates : Option Bool
  dialect : Option Text
  outputFile : Option Text
  deriving DecidableEq, Repr

/-- A template whose structure is to be shown. -/
structure InspectRequest where
  template : Text
  format : Option Text
  outputFile : Option Text
  deriving DecidableEq, Repr

inductive Request
  | build (r : BuildRequest)
  | inspect (r : InspectRequest)
  deriving DecidableEq, Repr

/-- The paths that a request names. -/
def Request.paths : Request → List Path
  | .build r => (r.template :: r.argumentsFile.toList ++ r.outputFile.toList).map .ofText
  | .inspect r => (r.template :: r.outputFile.toList).map .ofText

/-- One option of a command, as the change that it makes to the request. -/
abbrev Change (α : Type) := α → α

def BuildRequest.rules : List (OptionRule (Change BuildRequest)) :=
  [⟨"arg".toList, some 'a', .valued fun v r => { r with arguments := r.arguments ++ [v] }⟩,
    ⟨"args-file".toList, none, .valued fun v r => { r with argumentsFile := some v }⟩,
    ⟨"consume-skipped".toList, none, .flag fun r => { r with consumeSkipped := some true }⟩,
    ⟨"no-consume-skipped".toList, none, .flag fun r => { r with consumeSkipped := some false }⟩,
    ⟨"validate".toList, none, .flag fun r => { r with validates := some true }⟩,
    ⟨"no-validate".toList, none, .flag fun r => { r with validates := some false }⟩,
    ⟨"dialect".toList, some 'd', .valued fun v r => { r with dialect := some v }⟩,
    ⟨"output-file".toList, some 'o', .valued fun v r => { r with outputFile := some v }⟩]

def InspectRequest.rules : List (OptionRule (Change InspectRequest)) :=
  [⟨"output-format".toList, some 'f', .valued fun v r => { r with format := some v }⟩,
    ⟨"output-file".toList, some 'o', .valued fun v r => { r with outputFile := some v }⟩]

/-- A request for one template with the options applied in order, so the last word on a setting
counts. -/
def requestOf? {α : Type} (rules : List (OptionRule (Change α))) (start : Text → α)
    (words : List Text) : Option α :=
  match readWords rules words with
  | some (changes, [template]) => some (changes.foldl (fun r change => change r) (start template))
  | _ => none

def BuildRequest.ofWords? : List Text → Option BuildRequest :=
  requestOf? rules fun template => ⟨template, [], none, none, none, none, none⟩

def InspectRequest.ofWords? : List Text → Option InspectRequest :=
  requestOf? rules fun template => ⟨template, none, none⟩

/-- The request in the words of a command line, of which the first names the command. -/
def Request.ofCommand? : List Text → Option Request
  | name :: words =>
    if name = "build".toList then (BuildRequest.ofWords? words).map .build
    else if name = "parse".toList then (InspectRequest.ofWords? words).map .inspect
    else none
  | [] => none

/-- A double hyphen may stand in front of the command. -/
def Request.ofWords? : List Text → Option Request
  | ['-', '-'] :: words => ofCommand? words
  | words => ofCommand? words

end SqlTemplate.Command
