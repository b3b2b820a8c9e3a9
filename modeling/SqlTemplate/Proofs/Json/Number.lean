import SqlTemplate.Json.Reader
import SqlTemplate.Proofs.Double.ReadBack
import SqlTemplate.Proofs.Numeral.Digits

/-! JSON numbers. A number that is written plainly is read whole, wherever no further digit, point
or exponent follows it. -/
namespace SqlTemplate.Json

theorem Cursor.skip_append (position : Nat) (text rest : Text) :
    (⟨position, text ++ rest⟩ : Cursor).skip text.length = ⟨position + text.length, rest⟩ := by
  simp [Cursor.skip]

/-- A text that cannot go on with a number in front of it. -/
def EndsNumber (rest : Text) : Prop :=
  ∀ c ∈ rest.head?, c.isDigit = false ∧ c ≠ '.' ∧ c ≠ 'e' ∧ c ≠ 'E'

theorem EndsNumber.nil : EndsNumber [] := nofun

theorem EndsNumber.cons {c : Char} {rest : Text}
    (h : c.isDigit = false ∧ c ≠ '.' ∧ c ≠ 'e' ∧ c ≠ 'E') : EndsNumber (c :: rest) := by
  rintro _ ⟨⟩
  exact h

section
variable {row rest : Text}

theorem takeWhile_isDigit_append (hrow : ∀ c ∈ row, c.isDigit = true)
    (hrest : ∀ c ∈ rest.head?, c.isDigit = false) :
    (row ++ rest).takeWhile Char.isDigit = row := by
  rw [List.takeWhile_append_of_pos hrow]
  cases rest with
  | nil => simp
  | cons c rest => simp [hrest c rfl]

theorem wholeDigits_append (hrow : Numeral.AsciiDigits row)
    (hlead : row = ['0'] ∨ row.head? ≠ some '0') (hrest : ∀ c ∈ rest.head?, c.isDigit = false) :
    wholeDigits (row ++ rest) = row := by
  rcases hlead with rfl | hlead
  · rfl
  · obtain ⟨c, more, rfl⟩ := List.exists_cons_of_ne_nil hrow.ne_nil
    have hfirst : c ≠ '0' := fun hc => hlead (congrArg some hc)
    rw [List.cons_append, wholeDigits]
    · exact takeWhile_isDigit_append hrow.isDigit hrest
    · rintro _ ⟨⟩
      exact hfirst rfl

/-- What may follow the fraction of a number. -/
theorem isDigit_head?_exponent {e : Option Numeral.Exponent} (he : ∀ x ∈ e, x.mark = 'e')
    (hrest : EndsNumber rest) :
    ∀ c ∈ ((e.map Numeral.Exponent.text).getD [] ++ rest).head?, c.isDigit = false ∧ c ≠ '.' := by
  cases e with
  | none => exact fun c hc => ⟨(hrest c hc).1, (hrest c hc).2.1⟩
  | some e =>
    rintro _ ⟨⟩
    rw [he e rfl]
    decide

theorem fractionDigits?_append {fraction : Option Text}
    (hfraction : ∀ row ∈ fraction, Numeral.AsciiDigits row)
    (hrest : ∀ c ∈ rest.head?, c.isDigit = false ∧ c ≠ '.') :
    fractionDigits? (Numeral.fractionText fraction ++ rest) = fraction := by
  cases fraction with
  | none =>
    cases rest with
    | nil => rfl
    | cons c rest =>
      rw [Numeral.fractionText, List.nil_append, fractionDigits?]
      intro _ hpoint
      exact (hrest c rfl).2 (List.cons.inj hpoint).1
  | some row =>
    have hrow := hfraction row rfl
    have htake := takeWhile_isDigit_append hrow.isDigit fun c hc => (hrest c hc).1
    rw [Numeral.fractionText, List.cons_append, fractionDigits?, htake]
    simp [hrow.ne_nil]

theorem exponent?_append {e : Option Numeral.Exponent}
    (he : ∀ x ∈ e, x.mark = 'e' ∧ (x.sign = ['+'] ∨ x.sign = ['-']) ∧
      Numeral.AsciiDigits x.digits) (hrest : EndsNumber rest) :
    exponent? ((e.map Numeral.Exponent.text).getD [] ++ rest) = e := by
  cases e with
  | none =>
    cases rest with
    | nil => rfl
    | cons c rest =>
      obtain ⟨-, -, hlower, hupper⟩ := hrest c rfl
      simp [exponent?, hlower, hupper]
  | some e =>
    obtain ⟨mark, sign, digits⟩ := e
    obtain ⟨rfl, hsign, hdigits⟩ := he _ rfl
    have htake := takeWhile_isDigit_append hdigits.isDigit fun c hc => (hrest c hc).1
    rcases hsign with rfl | rfl <;>
      simp [exponent?, Numeral.Exponent.text, Numeral.takeSign, htake, hdigits.ne_nil]

/-- A number is read as the parts that it was written from. -/
theorem numeral?_text {n : Numeral} (h : n.Laid)
    (hlead : n.whole = ['0'] ∨ n.whole.head? ≠ some '0') (hrest : EndsNumber rest) :
    numeral? (n.text ++ rest) = some n := by
  let afterFraction := (n.exponent.map Numeral.Exponent.text).getD [] ++ rest
  let afterWhole := Numeral.fractionText n.fraction ++ afterFraction
  have hexponent := isDigit_head?_exponent (fun e he => (h.exponent e he).1) hrest
  have hdigit : ∀ c ∈ afterWhole.head?, c.isDigit = false := by
    cases hfraction : n.fraction with
    | none =>
      intro c hc
      simp only [afterWhole, hfraction, Numeral.fractionText, List.nil_append] at hc
      exact (hexponent c hc).1
    | some row =>
      intro c hc
      simp only [afterWhole, hfraction, Numeral.fractionText, List.cons_append, List.head?_cons,
        Option.mem_some_iff] at hc
      rw [← hc]
      rfl
  have htext : n.text ++ rest = n.sign ++ (n.whole ++ afterWhole) := by
    simp [Numeral.text, afterWhole, afterFraction]
  have hsign : (if (n.text ++ rest).head? = some '-' then ['-'] else []) = n.sign := by
    rw [htext]
    rcases h.sign with hnone | hminus
    · obtain ⟨c, more, hwhole⟩ := List.exists_cons_of_ne_nil h.whole.ne_nil
      have hc := h.whole.isDigit c (hwhole ▸ List.mem_cons_self)
      have hne : c ≠ '-' := by
        rintro rfl
        cases hc
      simp [hnone, hwhole, hne]
    · simp [hminus]
  have hwhole : wholeDigits (n.whole ++ afterWhole) = n.whole :=
    wholeDigits_append h.whole hlead hdigit
  have hfraction : fractionDigits? afterWhole = n.fraction :=
    fractionDigits?_append h.fraction hexponent
  have hlast : exponent? afterFraction = n.exponent := exponent?_append h.exponent hrest
  simp only [numeral?, hsign]
  simp only [htext, List.drop_left, hwhole, h.whole.ne_nil, ↓reduceIte, hfraction, afterWhole,
    hlast]

/-- No name of a value stands in front of a number. -/
theorem atom_text {n : Numeral} (h : n.Laid) (position : Nat) :
    atom ⟨position, n.text ++ rest⟩ = number ⟨position, n.text ++ rest⟩ := by
  obtain ⟨c, more, hwhole⟩ := List.exists_cons_of_ne_nil h.whole.ne_nil
  have hdigit := h.whole.isDigit c (hwhole ▸ List.mem_cons_self)
  have hne (d : Char) (hd : d.isDigit = false) : d ≠ c := by
    rintro rfl
    rw [hd] at hdigit
    cases hdigit
  have hnames : names.find? (fun e => e.1.isPrefixOf (n.text ++ rest)) = none := by
    rcases h.sign with hsign | hsign <;>
      simp [Numeral.text, hsign, hwhole, names, hne]
  simp only [atom, hnames]

/-- An integer within the limit is read from its decimal text. -/
theorem atom_ofInt {i : Int} (hlimit : (Numeral.digits i.natAbs).length ≤ Numeral.digitLimit)
    (hrest : EndsNumber rest) (position : Nat) :
    atom ⟨position, Numeral.ofInt i ++ rest⟩ =
      .ok (.int i, ⟨position + (Numeral.ofInt i).length, rest⟩) := by
  have hlaid := (Numeral.plain_ofInteger i).laid
  have hread := numeral?_text hlaid (Numeral.digits_eq_zero_or_head?_ne i.natAbs) hrest
  rw [← Numeral.text_ofInteger, atom_text hlaid]
  simp only [number, hread, Cursor.skip_append]
  simp [Numeral.ofInteger, hlimit, Numeral.signed_digits]

/-- A finite double is read from its decimal text. -/
theorem atom_text_double {d : Double} (hfinite : d.isFinite = true) (hrest : EndsNumber rest)
    (position : Nat) : atom ⟨position, d.text ++ rest⟩ =
      .ok (.double d, ⟨position + d.text.length, rest⟩) := by
  cases d with
  | nan => cases hfinite
  | infinite negative => cases hfinite
  | finite negative m h =>
    have hlaid := Double.laid_parts negative m
    have hread := numeral?_text hlaid (Double.leading_parts negative m) hrest
    have hdouble : ¬ ((Double.parts negative m).fraction = none ∧
        (Double.parts negative m).exponent = none) :=
      fun hinteger => Double.exponent_parts_ne_none hinteger.1 hinteger.2
    rw [Double.text, ← Double.text_parts, atom_text hlaid]
    simp only [number, hread, hdouble, ↓reduceIte, Cursor.skip_append, Double.toDouble_parts _ h]

end
end SqlTemplate.Json
