import SqlTemplate.File.Template
import SqlTemplate.Proofs.Text.Newline
import SqlTemplate.Proofs.Text.Utf8

/-! Template files. What is read from one has line feeds only, whatever line endings the file has, and
without the last of them unless that is kept. -/
namespace SqlTemplate

theorem decodeText_encode_eq (text : Text) :
    decodeText (Text.Utf8.encode text) = .ok (Text.normalizeNewlines text) := by
  rw [decodeText, Text.Utf8.decode_encode]
  rfl

theorem decodeText_encode {text : Text} (h : '\r' ∉ text) :
    decodeText (Text.Utf8.encode text) = .ok text := by
  rw [decodeText_encode_eq, Text.normalizeNewlines_of_not_mem h]

theorem readTemplate_of_target {t : FileTree} {path : Path} {place : List Text} {text : Text}
    (h : t.target path = .file place (Text.Utf8.encode text)) (keepFinalNewline : Bool) :
    readTemplate t path keepFinalNewline = .ok
      (if keepFinalNewline then Text.normalizeNewlines text
        else Text.dropFinalNewline (Text.normalizeNewlines text)) := by
  simp only [readTemplate, h, decodeText_encode_eq]

/-- Of a file that holds the UTF-8 of a text, the template has no carriage returns, and one line feed
less than what is kept if that ends with one. Which of the three line endings a text is written with
makes no difference to either. -/
theorem readTemplate_lineEnds :
    (∀ (t : FileTree) (path : Path) (place : List Text) (text : Text),
      t.target path = .file place (Text.Utf8.encode text) →
      ∃ kept dropped, readTemplate t path true = .ok kept ∧
        readTemplate t path false = .ok dropped ∧ '\r' ∉ kept ∧
        if kept.getLast? = some '\n' then kept = dropped ++ ['\n'] else kept = dropped) ∧
    (∀ text : Text, '\r' ∉ text →
      ∃ dropped, ∀ ending ∈ [['\n'], ['\r', '\n'], ['\r']],
        ∀ (t : FileTree) (path : Path) (place : List Text),
          t.target path = .file place (Text.Utf8.encode (Text.withLineEnds ending text)) →
          readTemplate t path true = .ok text ∧ readTemplate t path false = .ok dropped) := by
  refine ⟨?_, ?_⟩
  · intro t path place text hfile
    have hreturn := Text.return_not_mem_normalizeNewlines text
    exact ⟨_, _, readTemplate_of_target hfile true, readTemplate_of_target hfile false, hreturn,
      Text.eq_dropFinalNewline hreturn⟩
  · intro text hreturn
    refine ⟨Text.dropFinalNewline text, fun ending hending t path place hfile => ?_⟩
    have hread := readTemplate_of_target hfile
    rw [Text.normalizeNewlines_withLineEnds hending hreturn] at hread
    exact ⟨hread true, hread false⟩

/-- All three line endings in one file, and two lone returns that are the whole of another. -/
theorem readTemplate_lineEnds_mixed :
    let files : FileTree := ⟨[(["m.sql".toList], .file (Text.Utf8.encode "a\r\n\n\r".toList)),
      (["r.sql".toList], .file (Text.Utf8.encode ['\r', '\r']))], []⟩
    let mixed : Path := ⟨false, ["m.sql".toList]⟩
    let returns : Path := ⟨false, ["r.sql".toList]⟩
    files.target mixed = .file ["m.sql".toList] (Text.Utf8.encode "a\r\n\n\r".toList) ∧
      readTemplate files mixed true = .ok "a\n\n\n".toList ∧
      readTemplate files mixed false = .ok "a\n\n".toList ∧
    files.target returns =
        .file ["r.sql".toList] (Text.Utf8.encode (Text.withLineEnds ['\r'] ['\n', '\n'])) ∧
      readTemplate files returns true = .ok ['\n', '\n'] ∧
      readTemplate files returns false = .ok ['\n'] := by
  intro files mixed returns
  have hmixed : files.target mixed =
      .file ["m.sql".toList] (Text.Utf8.encode "a\r\n\n\r".toList) := by decide +kernel
  have hreturns : files.target returns = .file ["r.sql".toList]
      (Text.Utf8.encode (Text.withLineEnds ['\r'] ['\n', '\n'])) := by decide +kernel
  obtain ⟨kept, dropped, hkept, hdropped, -, hend⟩ :=
    readTemplate_lineEnds.1 files mixed _ _ hmixed
  have hread : readTemplate files mixed true = .ok "a\n\n\n".toList := by decide +kernel
  cases hkept.symm.trans hread
  have hfront : "a\n\n".toList ++ ['\n'] = dropped ++ ['\n'] := hend
  cases List.append_cancel_right hfront
  obtain ⟨last, hlast⟩ := readTemplate_lineEnds.2 ['\n', '\n'] (by decide)
  obtain ⟨hall, -⟩ := hlast ['\r'] (by decide) files returns _ hreturns
  exact ⟨hmixed, hread, hdropped, hreturns, hall, by decide +kernel⟩

end SqlTemplate
