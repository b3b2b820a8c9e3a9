import Mathlib.Data.List.Chain
import SqlTemplate.Template.Token

/-! How the tokens of a text are laid out, and how they come apart at the front of a text. -/
namespace SqlTemplate

namespace Specifier

/-- The specifier letters are the ones written in the language's own description. -/
theorem ofLetter?_eq_none_iff {c : Char} : ofLetter? c = none ↔ c ∉ ['d', 'f', 'a', '#'] := by
  constructor
  · intro h hc
    simp only [List.mem_cons, List.not_mem_nil, or_false] at hc
    rcases hc with rfl | rfl | rfl | rfl <;> simp [ofLetter?] at h
  · intro h
    simp only [List.mem_cons, List.not_mem_nil, or_false, not_or] at h
    simp [ofLetter?, h]

theorem opening_not_mem_token (s : Specifier) : '{' ∉ s.token := by cases s <;> decide

theorem closing_not_mem_token (s : Specifier) : '}' ∉ s.token := by cases s <;> decide

theorem count_token (s : Specifier) : s.token.count '?' = 1 := by cases s <;> rfl

end Specifier

namespace Token

/-- A plain placeholder is not followed by a letter that it would have taken. -/
def Follows : Token → Token → Prop
  | .placeholder .plain, .char c => Specifier.ofLetter? c = none
  | _, _ => True

/-- A list of tokens as a scan gives it. -/
structure Scanned (tokens : List Token) : Prop where
  chars : ∀ c, .char c ∈ tokens → c ≠ '?' ∧ c ≠ '{' ∧ c ≠ '}'
  follows : tokens.IsChain Follows

namespace Scanned
variable {a : Token} {rest : List Token}

theorem tail (h : Scanned (a :: rest)) : Scanned rest :=
  ⟨fun c hc => h.chars c (List.mem_cons_of_mem _ hc), (List.isChain_cons.mp h.follows).2⟩

theorem head_char {c : Char} (h : Scanned (.char c :: rest)) : c ≠ '?' ∧ c ≠ '{' ∧ c ≠ '}' :=
  h.chars c List.mem_cons_self

/-- After a plain placeholder comes no character that is a specifier letter. -/
theorem ofLetter?_after_plain {c : Char} (h : Scanned (.placeholder .plain :: .char c :: rest)) :
    Specifier.ofLetter? c = none := (List.isChain_cons_cons.mp h.follows).1

theorem cons (ha : ∀ c, a = .char c → c ≠ '?' ∧ c ≠ '{' ∧ c ≠ '}')
    (hf : ∀ b ∈ rest.head?, Follows a b) (h : Scanned rest) : Scanned (a :: rest) := by
  refine ⟨?_, List.isChain_cons.mpr ⟨hf, h.follows⟩⟩
  intro c hc
  rcases List.mem_cons.mp hc with hc | hc
  · exact ha c hc.symm
  · exact h.chars c hc

end Scanned

/-- Only a character at the front of a text makes a character token there, and the same one. -/
theorem eq_of_head?_ofText {c d : Char} {rest : Text}
    (h : (ofText (c :: rest)).head? = some (.char d)) : d = c := by
  obtain ⟨later, hlater⟩ := List.head?_eq_some_iff.mp h
  have htext := flatMap_text_ofText (c :: rest)
  rw [hlater, List.flatMap_cons] at htext
  exact (List.cons.inj htext).1

theorem scanned_ofText (t : Text) : Scanned (ofText t) := by
  fun_induction ofText t with
  | case1 => exact ⟨by simp, .nil⟩
  | case2 rest ih => exact .cons (by simp) (by simp [Follows]) ih
  | case3 rest ih => exact .cons (by simp) (by simp [Follows]) ih
  | case4 => exact .cons (by simp) (by simp) ⟨by simp, .nil⟩
  | case5 c rest s hs ih =>
    refine .cons (by simp) ?_ ih
    have hplain : s ≠ .plain := by
      rintro rfl
      simp [← Specifier.letter?_eq_some_iff, Specifier.letter?] at hs
    intro b _
    cases s <;> cases b <;> simp [Follows] at hplain ⊢
  | case6 c rest hs ih =>
    refine .cons (by simp) ?_ ih
    intro b hb
    cases b with
    | char d => exact eq_of_head?_ofText hb ▸ hs
    | placeholder _ | opening | closing => trivial
  | case7 c rest h₁ h₂ h₃ h₄ ih =>
    refine .cons ?_ (by simp [Follows]) ih
    rintro d ⟨⟩
    refine ⟨?_, h₁, h₂⟩
    rintro rfl
    cases rest with
    | nil => exact h₃ rfl rfl
    | cons e rest => exact h₄ e rest rfl rfl

/-- Every question mark of a text begins a placeholder, and nothing else does. -/
theorem countP_isPlaceholder_ofText (t : Text) :
    (ofText t).countP isPlaceholder = t.count '?' := by
  have hscanned : ∀ {ts : List Token}, Scanned ts →
      ts.countP isPlaceholder = (ts.flatMap text).count '?' := by
    intro ts hs
    induction ts with
    | nil => rfl
    | cons token rest ih =>
      rw [List.flatMap_cons, List.count_append, ← ih hs.tail, Nat.add_comm]
      cases token with
      | char c => simp [isPlaceholder, text, hs.head_char.1]
      | placeholder s =>
        rw [text, s.count_token]
        exact List.countP_cons_of_pos rfl
      | opening => simp [isPlaceholder, text]
      | closing => simp [isPlaceholder, text]
  rw [hscanned (scanned_ofText t), flatMap_text_ofText]

/-- The token of a character that is neither a question mark nor an opening brace. -/
def ofPlainChar (c : Char) : Token := if c = '}' then .closing else .char c

theorem ofPlainChar_of_ne {c : Char} (h : c ≠ '}') : ofPlainChar c = .char c := if_neg h

@[simp] theorem text_ofPlainChar (c : Char) : (ofPlainChar c).text = [c] := by
  rw [ofPlainChar]
  split <;> simp_all [text]

theorem ofText_cons_of_plain {c : Char} (hc : c ≠ '?' ∧ c ≠ '{') (rest : Text) :
    ofText (c :: rest) = ofPlainChar c :: ofText rest := by
  by_cases hclosing : c = '}'
  · subst hclosing
    rfl
  · rw [ofPlainChar_of_ne hclosing, ofText] <;> simp_all

theorem ofText_append_of_plain {text : Text} (h : ∀ c ∈ text, c ≠ '?' ∧ c ≠ '{') (rest : Text) :
    ofText (text ++ rest) = text.map ofPlainChar ++ ofText rest := by
  induction text with
  | nil => rfl
  | cons c text ih =>
    obtain ⟨hc, htext⟩ := List.forall_mem_cons.mp h
    rw [List.cons_append, ofText_cons_of_plain hc, ih htext]
    rfl

/-- A token at the front of a text is one token, unless a plain one meets a specifier letter. -/
theorem ofText_token_append (s : Specifier) (rest : Text)
    (h : s = .plain → ∀ c ∈ rest.head?, Specifier.ofLetter? c = none) :
    ofText (s.token ++ rest) = .placeholder s :: ofText rest := by
  cases hs : s.letter? with
  | some c =>
    have hc := Specifier.letter?_eq_some_iff.mp hs
    simp [Specifier.token, hs, ofText, hc]
  | none =>
    have hplain : s = .plain := by cases s <;> simp [Specifier.letter?] at hs ⊢
    subst hplain
    cases rest with
    | nil => rfl
    | cons c rest =>
      have hc : Specifier.ofLetter? c = none := h rfl c rfl
      simp [Specifier.token, Specifier.letter?, ofText, hc]

/-- Texts are scanned one after the other unless a question mark at the end of the first meets a
specifier letter. -/
theorem ofText_append {s t : Text}
    (h : s.getLast? = some '?' → ∀ c ∈ t.head?, Specifier.ofLetter? c = none) :
    ofText (s ++ t) = ofText s ++ ofText t := by
  have hlast : ∀ {first : Char} {rest : Text}, rest.getLast? = some '?' →
      (first :: rest).getLast? = some '?' := by
    intro first rest hrest
    rw [List.getLast?_cons, hrest]
    rfl
  fun_induction ofText s with
  | case1 => rfl
  | case2 rest ih => rw [List.cons_append, ofText, ih fun hrest => h (hlast hrest)]; rfl
  | case3 rest ih => rw [List.cons_append, ofText, ih fun hrest => h (hlast hrest)]; rfl
  | case4 => exact ofText_token_append .plain t fun _ => h rfl
  | case5 c rest s hs ih =>
    rw [List.cons_append, List.cons_append, ofText, hs,
      ih fun hrest => h (hlast (hlast hrest))]
    rfl
  | case6 c rest hs ih =>
    rw [List.cons_append, List.cons_append, ofText, hs, ← List.cons_append,
      ih fun hrest => h (hlast hrest)]
    rfl
  | case7 c rest h₁ h₂ h₃ h₄ ih =>
    have hc : c ≠ '?' := by
      rintro rfl
      cases rest with
      | nil => exact h₃ rfl rfl
      | cons d rest => exact h₄ d rest rfl rfl
    rw [List.cons_append, ofText_cons_of_plain ⟨hc, h₁⟩, ofPlainChar_of_ne h₂,
      ih fun hrest => h (hlast hrest)]
    rfl

end Token
end SqlTemplate
