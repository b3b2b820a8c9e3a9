import SqlTemplate.Proofs.Double.Text
import SqlTemplate.Proofs.Json.String
import SqlTemplate.Proofs.Numeral.Digits

/-! The values of which a JSON text keeps everything. What is written for them is ASCII. -/
namespace SqlTemplate.Json

/-- The entries of a mapping with texts for keys. -/
def named (pairs : List (Text × Value)) : List (Value × Value) :=
  pairs.map fun e => (.str e.1, e.2)

/-- The values of which a JSON text keeps everything: finite scalars, lists, and mappings with
different texts for keys. -/
inductive Lossless : Value → Prop
  | null : Lossless .null
  | bool (b : Bool) : Lossless (.bool b)
  | int {i : Int} (limit : (Numeral.digits i.natAbs).length ≤ Numeral.digitLimit) :
    Lossless (.int i)
  | double {d : Double} (finite : d.isFinite = true) : Lossless (.double d)
  | str (text : Text) : Lossless (.str text)
  | list {items : List Value} (each : ∀ v ∈ items, Lossless v) : Lossless (.list items)
  | dict {pairs : List (Text × Value)} (names : (pairs.map (·.1)).Nodup)
    (each : ∀ e ∈ pairs, Lossless e.2) : Lossless (.dict (named pairs))

/-! The blanks between what is written. -/

/-- A text of blanks only. -/
def Blank (gap : Text) : Prop := ∀ c ∈ gap, Cursor.isSpace c = true

theorem Blank.eq {gap : Text} (h : Blank gap) :
    ∀ c ∈ gap, c = ' ' ∨ c = '\t' ∨ c = '\n' ∨ c = '\r' := by
  intro c hc
  have hspace := h c hc
  simpa only [Cursor.isSpace, Bool.or_eq_true, beq_iff_eq, or_assoc] using hspace

theorem mem_lineBreak {l : Layout} {level : Nat} :
    ∀ c ∈ l.lineBreak level, c = '\n' ∨ c = ' ' := by
  unfold Layout.lineBreak
  cases l.indent with
  | none => nofun
  | some n =>
    intro c hc
    rcases List.mem_cons.mp hc with rfl | hc
    · exact .inl rfl
    · exact .inr (List.eq_of_mem_replicate hc)

theorem blank_lineBreak (l : Layout) (level : Nat) : Blank (l.lineBreak level) := by
  intro c hc
  rcases mem_lineBreak c hc with rfl | rfl <;> rfl

theorem exists_separator (l : Layout) (level : Nat) :
    ∃ gap, l.separator level = ',' :: gap ∧ Blank gap := by
  unfold Layout.separator
  cases l.indent with
  | none => exact ⟨[' '], rfl, List.forall_mem_singleton.mpr rfl⟩
  | some n => exact ⟨_, rfl, blank_lineBreak l level⟩

/-! Nothing but ASCII is written, and of its control characters the line feed only. -/

/-- A text of ASCII characters, none of which is a control character but the line feed. -/
def Printed (text : Text) : Prop := ∀ c ∈ text, (0x20 ≤ c.toNat ∨ c = '\n') ∧ c.toNat < 0x80

theorem Printed.append {text more : Text} (h : Printed text) (hmore : Printed more) :
    Printed (text ++ more) := List.forall_mem_append.mpr ⟨h, hmore⟩

theorem Printed.cons {c : Char} {text : Text} (hc : (0x20 ≤ c.toNat ∨ c = '\n') ∧ c.toNat < 0x80)
    (h : Printed text) : Printed (c :: text) := List.forall_mem_cons.mpr ⟨hc, h⟩

theorem Printed.of_mem {text : Text} (h : ∀ c ∈ text, 0x20 ≤ c.toNat ∧ c.toNat < 0x80) :
    Printed text := fun c hc => ⟨.inl (h c hc).1, (h c hc).2⟩

theorem printed_lineBreak (l : Layout) (level : Nat) : Printed (l.lineBreak level) := by
  intro c hc
  rcases mem_lineBreak c hc with rfl | rfl <;> decide

theorem printed_separator (l : Layout) (level : Nat) : Printed (l.separator level) := by
  unfold Layout.separator
  cases l.indent with
  | none => exact .cons (by decide) (.cons (by decide) nofun)
  | some n => exact .cons (by decide) (printed_lineBreak l level)

theorem printed_stringText (text : Text) : Printed (stringText text) := by
  have hbody : Printed (text.flatMap charText) := by
    apply Printed.of_mem
    intro d hd
    obtain ⟨c, -, hd⟩ := List.mem_flatMap.mp hd
    exact printed_charText d hd
  exact .cons (by decide) (hbody.append (.cons (by decide) nofun))

theorem printed_text {n : Numeral} (h : n.Laid) : Printed n.text := by
  apply Printed.of_mem
  intro c hc
  rcases h.isDigit_or_mem hc with hdigit | hmark
  · simp only [Char.isDigit, Bool.and_eq_true, decide_eq_true_eq] at hdigit
    have hle : 48 ≤ c.toNat ∧ c.toNat ≤ 57 := hdigit
    omega
  · have hall : ∀ d ∈ ['-', '+', '.', 'e'], 0x20 ≤ d.toNat ∧ d.toNat < 0x80 := by simp
    exact hall c hmark

section
variable {l : Layout} {level : Nat}

theorem printed_writeItems {items : List Value} (h : ∀ v ∈ items, Printed (write l level v)) :
    Printed (writeItems l level items) := by
  induction items with
  | nil => exact nofun
  | cons v items ih =>
    obtain ⟨hv, hitems⟩ := List.forall_mem_cons.mp h
    cases items with
    | nil => exact hv
    | cons w items => exact (hv.append (printed_separator l level)).append (ih hitems)

theorem printed_writeEntries {pairs : List (Text × Value)}
    (h : ∀ e ∈ pairs, Printed (write l level e.2)) : Printed (writeEntries l level (named pairs)) := by
  induction pairs with
  | nil => exact nofun
  | cons e pairs ih =>
    obtain ⟨he, hpairs⟩ := List.forall_mem_cons.mp h
    have hentry : Printed (stringText e.1 ++ ':' :: ' ' :: write l level e.2) :=
      (printed_stringText e.1).append (.cons (by decide) (.cons (by decide) he))
    cases pairs with
    | nil => exact hentry
    | cons e' pairs => exact (hentry.append (printed_separator l level)).append (ih hpairs)

theorem printed_write_list {items : List Value} (h : ∀ v ∈ items, Printed (write l (level + 1) v)) :
    Printed (write l level (.list items)) := by
  have hbreak := printed_lineBreak l
  cases items with
  | nil => exact .cons (by decide) (.cons (by decide) nofun)
  | cons v items =>
    exact (((hbreak _).cons (by decide)).append (printed_writeItems h)).append (hbreak _) |>.append
      (.cons (by decide) nofun)

theorem printed_write_dict {pairs : List (Text × Value)}
    (h : ∀ e ∈ pairs, Printed (write l (level + 1) e.2)) :
    Printed (write l level (.dict (named pairs))) := by
  have hbreak := printed_lineBreak l
  cases pairs with
  | nil => exact .cons (by decide) (.cons (by decide) nofun)
  | cons e pairs =>
    exact (((hbreak _).cons (by decide)).append (printed_writeEntries h)).append (hbreak _) |>.append
      (.cons (by decide) nofun)

end

theorem write_double {l : Layout} {level : Nat} {d : Double} (h : d.isFinite = true) :
    write l level (.double d) = d.text := by
  cases d with
  | finite => rfl
  | nan => cases h
  | infinite => cases h

theorem Lossless.printed_write {v : Value} (h : Lossless v) (l : Layout) (level : Nat) :
    Printed (write l level v) := by
  induction h generalizing level with
  | null =>
    show Printed "null".toList
    exact .of_mem (by simp)
  | bool b =>
    cases b with
    | false =>
      show Printed "false".toList
      exact .of_mem (by simp)
    | true =>
      show Printed "true".toList
      exact .of_mem (by simp)
  | @int i limit =>
    have htext := printed_text (Numeral.plain_ofInteger i).laid
    rwa [Numeral.text_ofInteger] at htext
  | double finite =>
    obtain ⟨n, hn, htext⟩ := Double.exists_laid_text finite
    rw [write_double finite, ← htext]
    exact printed_text hn
  | str text => exact printed_stringText text
  | list each ih => exact printed_write_list fun v hv => ih v hv (level + 1)
  | dict names each ih => exact printed_write_dict fun e he => ih e he (level + 1)

theorem Lossless.ascii_write {v : Value} (h : Lossless v) (l : Layout) (level : Nat) :
    ∀ c ∈ write l level v, c.toNat < 0x80 := fun c hc => (h.printed_write l level c hc).2

end SqlTemplate.Json
