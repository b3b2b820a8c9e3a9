import SqlTemplate.Arguments.File
import SqlTemplate.Proofs.File.Template

/-! The format that is read from an arguments file. -/
namespace SqlTemplate

/-- A file is read in the format that its suffix names. -/
theorem argumentsOfFile_of_target {readYaml : YamlReader} {t : FileTree} {path : Path}
    {place : List Text} {format : FileFormat} {content : List UInt8}
    (hformat : FileFormat.ofSuffix? (Text.lowercase path.suffix) = some format)
    (hfile : t.target path = .file place content) :
    argumentsOfFile readYaml t path = argumentsOfContent readYaml path format content := by
  have hexists : t.exists? path = true := by simp [FileTree.exists?, hfile]
  have hread : t.read path = .ok content := by simp [FileTree.read, hfile]
  simp only [argumentsOfFile, hexists, hformat, hread, Bool.not_true, Bool.false_eq_true,
    ↓reduceIte]

end SqlTemplate
