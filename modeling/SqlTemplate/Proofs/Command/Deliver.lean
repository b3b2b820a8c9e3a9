import Mathlib.Tactic.ByContra
import SqlTemplate.Command.Run
import SqlTemplate.Proofs.File.Tree

/-! How a delivery ends. -/
namespace SqlTemplate.Command

section
variable (kit : Toolkit) (files : FileTree) (noun : Text) (product : Product)

/-- What is said of a file that is written. -/
def written (path : Path) : Text := noun ++ " written to ".toList ++ path.text

/-- How a delivery ends, with the directory afterwards. A product is shown on the output or is not
encoded. A file is not opened, or it is opened and nothing more, or it is written; then that is said,
or the line cannot be shown or encoded. -/
inductive Ends : Option Path → Except Failure Delivery → Prop
  | shown (encoded : kit.encoder.fault? product.inFile = none) :
      Ends none (.ok ⟨product.onOutput, files⟩)
  | unencoded {message : String} (fault : kit.encoder.fault? product.inFile = some message) :
      Ends none (.error ⟨.unencodable message, files⟩)
  | refused {path : Path} {message : String} (refusal : kit.refusal? path = some message) :
      Ends (some path) (.error ⟨.unforeseen message, files⟩)
  | unopened {path : Path} {cause : FileError} (accepted : kit.refusal? path = none)
      (fails : files.write path [] = .error cause) : Ends (some path) (.error ⟨.write cause, files⟩)
  | emptied {path : Path} {opened : FileTree} {message : String}
      (accepted : kit.refusal? path = none) (opens : files.write path [] = .ok opened)
      (fault : kit.encoder.fault? product.inFile = some message) :
      Ends (some path) (.error ⟨.unencodable message, opened⟩)
  | unsaid {path : Path} {after : FileTree} {message : String}
      (accepted : kit.refusal? path = none) (encoded : kit.encoder.fault? product.inFile = none)
      (writes : files.write path (Text.Utf8.encode product.inFile) = .ok after)
      (fault : kit.console.marked .success (written noun path) = .error message) :
      Ends (some path) (.error ⟨.unforeseen message, after⟩)
  | unprinted {path : Path} {after : FileTree} {line : Text} {message : String}
      (accepted : kit.refusal? path = none) (encoded : kit.encoder.fault? product.inFile = none)
      (writes : files.write path (Text.Utf8.encode product.inFile) = .ok after)
      (tells : kit.console.marked .success (written noun path) = .ok line)
      (fault : kit.encoder.fault? line = some message) :
      Ends (some path) (.error ⟨.unencodable message, after⟩)
  | said {path : Path} {after : FileTree} {line : Text}
      (accepted : kit.refusal? path = none) (encoded : kit.encoder.fault? product.inFile = none)
      (writes : files.write path (Text.Utf8.encode product.inFile) = .ok after)
      (tells : kit.console.marked .success (written noun path) = .ok line)
      (prints : kit.encoder.fault? line = none) : Ends (some path) (.ok ⟨line, after⟩)

/-- A text that can be encoded and, where it goes to a file, written there, with a line about that
which can be encoded too. -/
structure Writable (text : Text) (outputFile : Option Path) : Prop where
  encoded : kit.encoder.fault? text = none
  accepted : ∀ path, outputFile = some path → kit.refusal? path = none
  writes : ∀ path, outputFile = some path →
    ∃ after, files.write path (Text.Utf8.encode text) = .ok after
  prints : ∀ path line, outputFile = some path →
    kit.console.marked .success (written noun path) = .ok line → kit.encoder.fault? line = none

/-- A text fails to be delivered when the file it goes to is open already: it has no encoding, and
the file is empty, or it is written, and the line about that has no encoding. -/
inductive FailsLate (text : Text) : Option Path → FileTree → Prop
  | emptied {path : Path} {opened : FileTree} {message : String}
      (accepted : kit.refusal? path = none) (opens : files.write path [] = .ok opened)
      (fault : kit.encoder.fault? text = some message) : FailsLate text (some path) opened
  | unprinted {path : Path} {after : FileTree} {line : Text} {message : String}
      (accepted : kit.refusal? path = none) (encoded : kit.encoder.fault? text = none)
      (writes : files.write path (Text.Utf8.encode text) = .ok after)
      (tells : kit.console.marked .success (written noun path) = .ok line)
      (fault : kit.encoder.fault? line = some message) : FailsLate text (some path) after

end

section
variable {kit : Toolkit} {files : FileTree} {noun : Text} {product : Product}
  {outputFile : Option Path} {result : Except Failure Delivery}

theorem Writable.onOutput {text : Text} (encoded : kit.encoder.fault? text = none) :
    Writable kit files noun text none := ⟨encoded, nofun, nofun, nofun⟩

/-- A delivery to a file that can be written, and is if the text has an encoding. -/
theorem deliver_of_write {path : Path} {after : FileTree} (accepted : kit.refusal? path = none)
    (encoded : kit.encoder.fault? product.inFile = none)
    (writes : files.write path (Text.Utf8.encode product.inFile) = .ok after) :
    deliver kit files (some path) noun product =
      match kit.console.marked .success (written noun path) with
      | .error message => .error ⟨.unforeseen message, after⟩
      | .ok line =>
        match kit.encoder.fault? line with
        | some message => .error ⟨.unencodable message, after⟩
        | none => .ok ⟨line, after⟩ := by
  obtain ⟨opened, hopened⟩ := (FileTree.exists_write_ok_iff []).mp ⟨after, writes⟩
  simp only [deliver, accepted, hopened, encoded, FileTree.write_write hopened, writes]
  rfl

theorem Ends.deliver_eq (h : Ends kit files noun product outputFile result) :
    deliver kit files outputFile noun product = result := by
  cases h with
  | shown encoded => simp only [deliver, encoded]
  | unencoded fault => simp only [deliver, fault]
  | refused refusal => simp only [deliver, refusal]
  | unopened accepted fails => simp only [deliver, accepted, fails]
  | emptied accepted opens fault => simp only [deliver, accepted, opens, fault]
  | unsaid accepted encoded writes fault => simp only [deliver_of_write accepted encoded writes, fault]
  | unprinted accepted encoded writes tells fault =>
    simp only [deliver_of_write accepted encoded writes, tells, fault]
  | said accepted encoded writes tells prints =>
    simp only [deliver_of_write accepted encoded writes, tells, prints]

/-- There is no other end. -/
theorem exists_ends (kit : Toolkit) (files : FileTree) (noun : Text) (product : Product)
    (outputFile : Option Path) : ∃ result, Ends kit files noun product outputFile result := by
  cases outputFile with
  | none =>
    cases hfault : kit.encoder.fault? product.inFile with
    | none => exact ⟨_, .shown hfault⟩
    | some message => exact ⟨_, .unencoded hfault⟩
  | some path =>
    cases hrefusal : kit.refusal? path with
    | some message => exact ⟨_, .refused hrefusal⟩
    | none =>
      cases hopens : files.write path [] with
      | error cause => exact ⟨_, .unopened hrefusal hopens⟩
      | ok opened =>
        cases hfault : kit.encoder.fault? product.inFile with
        | some message => exact ⟨_, .emptied hrefusal hopens hfault⟩
        | none =>
          obtain ⟨after, hwrites⟩ := (FileTree.exists_write_ok_iff
            (Text.Utf8.encode product.inFile)).mp ⟨opened, hopens⟩
          cases hshown : kit.console.marked .success (written noun path) with
          | error message => exact ⟨_, .unsaid hrefusal hfault hwrites hshown⟩
          | ok line =>
            cases hprints : kit.encoder.fault? line with
            | some message => exact ⟨_, .unprinted hrefusal hfault hwrites hshown hprints⟩
            | none => exact ⟨_, .said hrefusal hfault hwrites hshown hprints⟩

theorem deliver_eq_iff : deliver kit files outputFile noun product = result ↔
    Ends kit files noun product outputFile result := by
  refine ⟨fun h => ?_, Ends.deliver_eq⟩
  obtain ⟨other, hother⟩ := exists_ends kit files noun product outputFile
  rw [← h, hother.deliver_eq]
  exact hother

/-- Where a line about the file can be shown, what is writable is delivered. -/
theorem exists_deliver_ok_iff (hshown : ∀ path, outputFile = some path →
      ∃ line, kit.console.marked .success (written noun path) = .ok line) :
    (∃ d, deliver kit files outputFile noun product = .ok d) ↔
      Writable kit files noun product.inFile outputFile := by
  constructor
  · rintro ⟨d, hd⟩
    cases deliver_eq_iff.mp hd with
    | shown encoded => exact .onOutput encoded
    | said accepted encoded writes tells prints =>
      refine ⟨encoded, ?_, ?_, ?_⟩
      · rintro _ ⟨⟩
        exact accepted
      · rintro _ ⟨⟩
        exact ⟨_, writes⟩
      · rintro _ line ⟨⟩ hline
        cases tells.symm.trans hline
        exact prints
  · rintro ⟨encoded, accepted, writes, prints⟩
    cases outputFile with
    | none => exact ⟨_, deliver_eq_iff.mpr (.shown encoded)⟩
    | some path =>
      obtain ⟨line, hline⟩ := hshown path rfl
      obtain ⟨after, hafter⟩ := writes path rfl
      have hprints := prints path line rfl hline
      exact ⟨_, deliver_eq_iff.mpr (.said (accepted path rfl) encoded hafter hline hprints)⟩

/-- What is not delivered changes no file, or fails late. -/
theorem files_of_deliver_eq_error {failure : Failure} (hshown : ∀ path, outputFile = some path →
      ∃ line, kit.console.marked .success (written noun path) = .ok line)
    (h : deliver kit files outputFile noun product = .error failure) :
    failure.files = files ∨
      FailsLate kit files noun product.inFile outputFile failure.files := by
  cases deliver_eq_iff.mp h with
  | unencoded => exact .inl rfl
  | refused => exact .inl rfl
  | unopened => exact .inl rfl
  | emptied accepted opens fault => exact .inr (.emptied accepted opens fault)
  | unsaid _ _ _ fault =>
    obtain ⟨line, hline⟩ := hshown _ rfl
    cases hline.symm.trans fault
  | unprinted accepted encoded writes tells fault =>
    exact .inr (.unprinted accepted encoded writes tells fault)

theorem FailsLate.deliver_eq {after : FileTree}
    (h : FailsLate kit files noun product.inFile outputFile after) : ∃ message,
      deliver kit files outputFile noun product = .error ⟨.unencodable message, after⟩ := by
  cases h with
  | emptied accepted opens fault => exact ⟨_, (Ends.emptied accepted opens fault).deliver_eq⟩
  | unprinted accepted encoded writes tells fault =>
    exact ⟨_, (Ends.unprinted accepted encoded writes tells fault).deliver_eq⟩

/-- Only half a surrogate pair makes a text have no encoding. -/
theorem exists_half_of_fault {text : Text} {message : String}
    (h : kit.encoder.fault? text = some message) : ∃ c ∈ text, (Text.half? c).isSome = true := by
  by_contra hnone
  have hwhole : Text.isWhole text = true := by simpa [Text.isWhole] using hnone
  cases h.symm.trans (kit.encoder.complete text hwhole)

theorem FailsLate.exists_half {text : Text} {after : FileTree}
    (hnoun : Text.isWhole noun = true)
    (h : FailsLate kit files noun text outputFile after) : ∃ c, (Text.half? c).isSome = true ∧
      (c ∈ text ∨ ∃ path, outputFile = some path ∧ c ∈ path.text) := by
  cases h with
  | emptied _ _ fault =>
    obtain ⟨c, hc, hhalf⟩ := exists_half_of_fault fault
    exact ⟨c, hhalf, .inl hc⟩
  | @unprinted path _ _ _ _ _ _ tells fault =>
    obtain ⟨c, hc, hhalf⟩ := exists_half_of_fault fault
    refine ⟨c, hhalf, .inr ⟨path, rfl, ?_⟩⟩
    have hsaid := kit.console.marked_halves _ _ _ tells c hc hhalf
    rcases List.mem_append.mp hsaid with hfront | hpath
    · rcases List.mem_append.mp hfront with hmem | hmem
      · exact absurd hmem (Text.not_mem_of_half hhalf hnoun)
      · exact absurd hmem (Text.not_mem_of_half hhalf (by decide))
    · exact hpath

end
end SqlTemplate.Command
