import SqlTemplate.Proofs.Arguments.Word
import SqlTemplate.Proofs.Command.Build
import SqlTemplate.Proofs.Query.Closure

/-! Which failures of a build are reported, and how a report looks. -/
namespace SqlTemplate

/-- Of the errors of arguments, an unforeseen fault of a reader goes without a report, and so does a
file that cannot be opened though it is there. -/
theorem isReported_arguments_eq_false_iff {cause : ArgumentsError} :
    Command.Error.isReported (.arguments cause) = false ↔
      (∃ message, cause = .unforeseen message) ∨
        ∃ e, cause = .unreadable e ∧ Command.Error.isReportedFault e.fault = false := by
  cases cause <;> simp [Command.Error.isReported]

/-- Arguments fail to load with an error that no command reports. -/
def FailsUnreported {α : Type} (x : Except ArgumentsError α) : Prop :=
  ∃ cause, x = .error cause ∧ Command.Error.isReported (.arguments cause) = false

section
variable {α β : Type} {readYaml : YamlReader} {stack : Stack} {files : FileTree} {path : Path}
  {text : Text} {content : List UInt8}

@[simp] theorem failsUnreported_error {cause : ArgumentsError} :
    FailsUnreported (.error cause : Except ArgumentsError α) ↔
      (∃ message, cause = .unforeseen message) ∨
        ∃ e, cause = .unreadable e ∧ Command.Error.isReportedFault e.fault = false := by
  simp [FailsUnreported, isReported_arguments_eq_false_iff]

end

section
variable {mode : SkipMode} {template : Text} {args : List Value}

end

namespace Command

section
variable {kit : Toolkit} {files : FileTree} {p : BuildPlan}

-- The report says where the block is.
example :
    let files : FileTree := ⟨[(["t.sql".toList], .file (Text.Utf8.encode "a\x7b".toList))], []⟩
    (run files (["build", "t.sql"].map String.toList)).report .standard =
      "Error: Malformed template: Unterminated conditional block (at position 1)\n".toList := by
  decide +kernel

end
end Command
end SqlTemplate
