import SqlTemplate.Console
import SqlTemplate.Text.Width

/-! The standard console: lines of any length, without colours. Marks in square brackets are not
shown; text that is to be shown as it is gets escaped first. -/
namespace SqlTemplate.Console

/-- The characters that may follow the bracket of a mark. -/
def startsMark (c : Char) : Bool := ('a' ≤ c && c ≤ 'z') || c == '#' || c == '/' || c == '@'

/-- A mark at the front, and what follows it: one of those characters, and no opening bracket before
the closing one. -/
def mark? : Text → Option (Text × Text)
  | '[' :: c :: rest =>
    let body := rest.takeWhile fun d => d != ']' && d != '['
    match startsMark c, rest.drop body.length with
    | true, ']' :: after => some ('[' :: c :: body ++ [']'], after)
    | _, _ => none
  | _ => none

/-- The backslashes at the front, and what follows them. -/
def takeSlashes (text : Text) : Nat × Text :=
  let slashes := text.takeWhile (· == '\\')
  (slashes.length, text.drop slashes.length)

def slashes (n : Nat) : Text := List.replicate n '\\'

/-- Doubles the backslashes in front of each mark and adds one. -/
def escapeMarks : Nat → Text → Text
  | 0, text => text
  | fuel + 1, text =>
    let (n, rest) := takeSlashes text
    match mark? rest with
    | some (mark, after) => slashes (2 * n + 1) ++ mark ++ escapeMarks fuel after
    | none =>
      match rest with
      | [] => slashes n
      | c :: after => slashes n ++ c :: escapeMarks fuel after

/-- A text in which all marks are escaped; a single backslash at the end is doubled. -/
def escape (text : Text) : Text :=
  let escaped := escapeMarks (text.length + 1) text
  match escaped.reverse with
  | '\\' :: '\\' :: _ => escaped
  | '\\' :: _ => escaped ++ ['\\']
  | _ => escaped

/-- Leaves out the marks. One after an odd number of backslashes is shown, and a backslash in front
of a bracket that starts no mark is not. -/
def showMarks : Nat → Text → Text
  | 0, text => text
  | fuel + 1, text =>
    let (n, rest) := takeSlashes text
    match mark? rest with
    | some (mark, after) =>
      slashes (n / 2) ++ (if n % 2 = 1 then mark else []) ++ showMarks fuel after
    | none =>
      match rest with
      | [] => slashes n
      | '[' :: after => slashes (n - 1) ++ '[' :: showMarks fuel after
      | c :: after => slashes n ++ c :: showMarks fuel after

/-- Bell, backspace, vertical tab, form feed and carriage return are not written. -/
def isDropped (c : Char) : Bool := [0x7, 0x8, 0xB, 0xC, 0xD].contains c.toNat

/-- Tabs stop at multiples of this many columns. -/
def tabWidth : Nat := 8

/-- A line with spaces for its tabs, `column` columns from the start of the line. -/
def expandTabs (column : Nat) : Text → Text
  | [] => []
  | '\n' :: rest => '\n' :: expandTabs 0 rest
  | '\t' :: rest =>
    let width := tabWidth - column % tabWidth
    List.replicate width ' ' ++ expandTabs (column + width) rest
  | c :: rest => c :: expandTabs (column + Text.columnsOf c) rest

/-- What a text with marks looks like, with the end of its last line. -/
def line (text : Text) : Text :=
  expandTabs 0 ((showMarks (text.length + 1) text).filter (!isDropped ·)) ++ ['\n']

example : line (escape "a [b] [1".toList) = "a [b] [1\n".toList := by decide +kernel
example : line "[b]a".toList = "a\n".toList := by decide +kernel

/-! What stands at the front of a line and has no meaning for the console is shown there. -/

/-- A character that has no meaning for a line. -/
def Shown (c : Char) : Prop :=
  c ≠ '[' ∧ c ≠ '\\' ∧ c ≠ '\t' ∧ isDropped c = false

theorem mark?_of_ne {c : Char} (h : c ≠ '[') (rest : Text) : mark? (c :: rest) = none := by
  rw [mark?]
  rintro _ _ ⟨⟩
  exact h rfl

theorem showMarks_append {front : Text} (h : ∀ c ∈ front, Shown c) (fuel : Nat) (rest : Text) :
    showMarks (front.length + fuel) (front ++ rest) = front ++ showMarks fuel rest := by
  induction front with
  | nil => simp
  | cons c front ih =>
    obtain ⟨⟨hbracket, hslash, -, -⟩, hfront⟩ := List.forall_mem_cons.mp h
    have htake : takeSlashes (c :: (front ++ rest)) = (0, c :: (front ++ rest)) := by
      simp [takeSlashes, hslash]
    rw [List.cons_append, List.length_cons, Nat.add_right_comm, showMarks, htake]
    simp only [mark?_of_ne hbracket, ih hfront]
    rfl

theorem expandTabs_cons {c : Char} (h : c ≠ '\t') (column : Nat) (rest : Text) :
    ∃ next, expandTabs column (c :: rest) = c :: expandTabs next rest := by
  by_cases hbreak : c = '\n'
  · subst hbreak
    exact ⟨0, rfl⟩
  · refine ⟨column + Text.columnsOf c, ?_⟩
    rw [expandTabs]
    · exact hbreak
    · exact h

theorem expandTabs_append {front : Text} (h : ∀ c ∈ front, Shown c) (column : Nat) (rest : Text) :
    ∃ after, expandTabs column (front ++ rest) = front ++ after := by
  induction front generalizing column with
  | nil => exact ⟨_, rfl⟩
  | cons c front ih =>
    obtain ⟨⟨-, -, htab, -⟩, hfront⟩ := List.forall_mem_cons.mp h
    obtain ⟨next, hnext⟩ := expandTabs_cons htab column (front ++ rest)
    obtain ⟨after, hafter⟩ := ih hfront next
    exact ⟨after, by rw [List.cons_append, hnext, hafter, List.cons_append]⟩

theorem line_append {front : Text} (h : ∀ c ∈ front, Shown c) (rest : Text) :
    ∃ after, line (front ++ rest) = front ++ after ++ ['\n'] := by
  have hfilter : front.filter (!isDropped ·) = front :=
    List.filter_eq_self.mpr fun c hc => by simp [(h c hc).2.2.2]
  have hmarks := showMarks_append h (rest.length + 1) rest
  obtain ⟨after, hafter⟩ := expandTabs_append h 0 ((showMarks (rest.length + 1) rest).filter
    (!isDropped ·))
  refine ⟨after, ?_⟩
  rw [line, List.length_append, Nat.add_assoc, hmarks, List.filter_append, hfilter, hafter]

theorem heads_line (label : Label) (text : Text) : label.Heads (line (label.word ++ text)) := by
  have hshown : ∀ c ∈ label.word, Shown c := by
    rw [Label.word.eq_def]
    cases label with
    | warning => simp [Shown, isDropped]
    | error => simp [Shown, isDropped]
    | success => simp [Shown, isDropped]
  obtain ⟨after, hafter⟩ := line_append hshown text
  exact ⟨after, hafter⟩

/-! What a line adds to its text is backslashes, blanks and its end. -/

/-- A mark and what follows it make up the text. -/
theorem append_of_mark? {text mark after : Text} (h : mark? text = some (mark, after)) :
    text = mark ++ after := by
  rw [mark?.eq_def] at h
  split at h
  · next c rest =>
    have hsplit := List.prefix_iff_eq_append.mp
      (List.takeWhile_prefix (l := rest) fun d => d != ']' && d != '[')
    dsimp only at h
    split at h
    · next hrest =>
      rw [hrest] at hsplit
      cases h
      simp only [List.cons_append, List.append_assoc, List.nil_append, hsplit]
    · cases h
  · cases h

theorem mem_showMarks {fuel : Nat} {text : Text} {c : Char} (h : c ∈ showMarks fuel text) :
    c ∈ text ∨ c = '\\' := by
  induction fuel generalizing text with
  | zero => exact .inl h
  | succ fuel ih =>
    have hslashes {n : Nat} (hc : c ∈ slashes n) : c = '\\' := (List.mem_replicate.mp hc).2
    have hrest {d : Char} (hd : d ∈ (takeSlashes text).2) : d ∈ text := List.mem_of_mem_drop hd
    -- A character that starts no mark is shown, with backslashes in front of it.
    have hcons {n : Nat} {d : Char} {after : Text} (heq : (takeSlashes text).2 = d :: after)
        (hc : c ∈ slashes n ++ d :: showMarks fuel after) : c ∈ text ∨ c = '\\' := by
      rw [heq] at hrest
      rcases List.mem_append.mp hc with hc | hc
      · exact .inr (hslashes hc)
      · rcases List.mem_cons.mp hc with rfl | hc
        · exact .inl (hrest List.mem_cons_self)
        · exact (ih hc).imp_left fun hafter => hrest (List.mem_cons_of_mem _ hafter)
    rw [showMarks] at h
    dsimp only at h
    split at h
    · next mark after hmark =>
      rw [append_of_mark? hmark] at hrest
      rcases List.mem_append.mp h with h | h
      · rcases List.mem_append.mp h with h | h
        · exact .inr (hslashes h)
        · split at h
          · exact .inl (hrest (List.mem_append_left _ h))
          · cases h
      · exact (ih h).imp_left fun hafter => hrest (List.mem_append_right _ hafter)
    · split at h
      · exact .inr (hslashes h)
      · next heq => exact hcons heq h
      · next heq => exact hcons heq h

theorem mem_expandTabs {column : Nat} {text : Text} {c : Char} (h : c ∈ expandTabs column text) :
    c ∈ text ∨ c = ' ' := by
  fun_induction expandTabs column text with
  | case1 => exact .inl h
  | case2 column rest ih =>
    rcases List.mem_cons.mp h with rfl | h
    · exact .inl List.mem_cons_self
    · exact (ih h).imp_left (List.mem_cons_of_mem _)
  | case3 column rest width ih =>
    rcases List.mem_append.mp h with h | h
    · exact .inr (List.mem_replicate.mp h).2
    · exact (ih h).imp_left (List.mem_cons_of_mem _)
  | case4 column d rest _ _ ih =>
    rcases List.mem_cons.mp h with rfl | h
    · exact .inl List.mem_cons_self
    · exact (ih h).imp_left (List.mem_cons_of_mem _)

theorem mem_line {text : Text} {c : Char} (h : c ∈ line text) :
    c ∈ text ∨ c ∈ ['\\', ' ', '\n'] := by
  rcases List.mem_append.mp h with h | h
  · rcases mem_expandTabs h with h | rfl
    · rcases mem_showMarks (List.mem_filter.mp h).1 with h | rfl
      · exact .inl h
      · exact .inr (by decide)
    · exact .inr (by decide)
  · cases List.mem_singleton.mp h
    exact .inr (by decide)

/-- A half in a line is one of the text. -/
theorem half_mem_line {label : Label} {text : Text} {c : Char} (h : c ∈ line (label.word ++ text))
    (hhalf : (Text.half? c).isSome = true) : c ∈ text := by
  rcases mem_line h with h | h
  · refine (List.mem_append.mp h).resolve_left (Text.not_mem_of_half hhalf ?_)
    cases label <;> decide
  · exact absurd h (Text.not_mem_of_half hhalf (by decide))

/-! Marks that close other marks. -/

/-- The marks of a text that are not escaped. -/
def marks : Nat → Text → List Text
  | 0, _ => []
  | fuel + 1, text =>
    let (n, rest) := takeSlashes text
    match mark? rest with
    | some (mark, after) => (if n % 2 = 1 then [] else [mark]) ++ marks fuel after
    | none => marks fuel (rest.drop 1)

/-- Without an opening bracket there is no mark. -/
theorem marks_eq_nil {fuel : Nat} {text : Text} (h : '[' ∉ text) : marks fuel text = [] := by
  induction fuel generalizing text with
  | zero => rfl
  | succ fuel ih =>
    have hrest : '[' ∉ (takeSlashes text).2 := fun hmem => h (List.mem_of_mem_drop hmem)
    have hnone : mark? (takeSlashes text).2 = none := by
      match hsplit : (takeSlashes text).2 with
      | [] => rfl
      | c :: after =>
        rw [hsplit] at hrest
        exact mark?_of_ne (fun hc => hrest (hc ▸ List.mem_cons_self)) after
    rw [marks]
    simp only [hnone]
    exact ih fun hmem => hrest (List.mem_of_mem_drop hmem)

def trim (text : Text) : Text :=
  ((text.dropWhile (· == ' ')).reverse.dropWhile (· == ' ')).reverse

/-- What a mark names: what is in it, up to an equals sign. -/
def markName (mark : Text) : Text :=
  Text.lowerAscii (trim ((mark.drop 1).dropLast.takeWhile (· != '=')))

/-- The first mark that closes nothing. A mark with a slash closes the last one of its name that is
open, or just the last one if it names none. -/
def stray? (opened : List Text) : List Text → Option Text
  | [] => none
  | mark :: rest =>
    match markName mark with
    | ['/'] => if opened = [] then some mark else stray? opened.tail rest
    | '/' :: name =>
      let name := trim name
      if opened.contains name then stray? (opened.erase name) rest else some mark
    | name => stray? (name :: opened) rest

def standard : Console where
  plain label text := line (label.word ++ escape text)
  marked label text :=
    match stray? [] (marks (text.length + 1) text) with
    | some mark => .error s!"closing tag '{String.ofList mark}' doesn't match any open tag"
    | none => .ok (line (label.word ++ text))
  plain_heads label text := heads_line label (escape text)
  marked_heads label text shown h := by
    split at h
    · cases h
    · cases h
      exact heads_line label text
  unmarked label text h := by
    rw [marks_eq_nil h]
    exact ⟨_, rfl⟩
  marked_halves label text shown h := by
    split at h
    · cases h
    · cases h
      exact fun c hc hhalf => half_mem_line hc hhalf

example : stray? [] (marks 20 "a[b]c[/B][/d]".toList) = some "[/d]".toList := by decide +kernel

end SqlTemplate.Console
