import RecurringBilling.Text.Span

/-!
# Blanks, controls and trimming

Blanks are the characters with the Unicode property `White_Space`, controls
those of the category `Cc`.  `trim` removes blanks at both ends and nothing
else.
-/

namespace RecurringBilling.Text

/-- Code points with the property `White_Space`. -/
def whiteSpace : SpanTable :=
  #[⟨0x9, 0xD⟩, ⟨0x20, 0x20⟩, ⟨0x85, 0x85⟩, ⟨0xA0, 0xA0⟩, ⟨0x1680, 0x1680⟩, ⟨0x2000, 0x200A⟩,
    ⟨0x2028, 0x2029⟩, ⟨0x202F, 0x202F⟩, ⟨0x205F, 0x205F⟩, ⟨0x3000, 0x3000⟩]

/-- A blank of any script. -/
def isBlank (c : Char) : Bool := whiteSpace.search c.toNat

/-- A control character. -/
def isControl (c : Char) : Bool := c.toNat < 0x20 || (0x7F ≤ c.toNat && c.toNat ≤ 0x9F)

/-- The text without the blanks it starts with. -/
def trimStart (s : List Char) : List Char := s.dropWhile isBlank

/-- The text without the blanks it ends with. -/
def trimEnd (s : List Char) : List Char := (s.reverse.dropWhile isBlank).reverse

/-- The text without the blanks at both ends. -/
def trim (s : List Char) : List Char := trimEnd (trimStart s)

/-- Bytes the text takes in UTF-8. -/
def byteLength : List Char → Nat
  | [] => 0
  | c :: s => c.utf8Size + byteLength s

theorem byteLength_cons (c : Char) (s : List Char) :
    byteLength (c :: s) = c.utf8Size + byteLength s := rfl

/-! ## Trimming twice -/

theorem trimStart_cons_of_blank {c : Char} (h : isBlank c = true) (s : List Char) :
    trimStart (c :: s) = trimStart s := by
  simp [trimStart, h]

theorem trimStart_cons_of_not_blank {c : Char} (h : isBlank c = false) (s : List Char) :
    trimStart (c :: s) = c :: s := by
  simp [trimStart, h]

/-- What `trimStart` leaves is empty or starts with a character that is no blank. -/
theorem trimStart_eq_nil_or_cons (s : List Char) :
    trimStart s = [] ∨ ∃ c r, trimStart s = c :: r ∧ isBlank c = false := by
  induction s with
  | nil => exact Or.inl rfl
  | cons c r ih =>
    by_cases h : isBlank c = true
    · rw [trimStart_cons_of_blank h]
      exact ih
    · have h' : isBlank c = false := by simpa using h
      exact Or.inr ⟨c, r, trimStart_cons_of_not_blank h' r, h'⟩

theorem trimStart_trimStart (s : List Char) : trimStart (trimStart s) = trimStart s := by
  rcases trimStart_eq_nil_or_cons s with h | ⟨c, r, h, hc⟩
  · rw [h]
    rfl
  · rw [h, trimStart_cons_of_not_blank hc]

theorem trimEnd_eq_reverse (s : List Char) : trimEnd s = (trimStart s.reverse).reverse := rfl

theorem trimEnd_trimEnd (s : List Char) : trimEnd (trimEnd s) = trimEnd s := by
  simp [trimEnd_eq_reverse, trimStart_trimStart]

/-- A first character that is no blank survives `trimEnd`. -/
theorem trimEnd_cons_of_not_blank {c : Char} (h : isBlank c = false) (s : List Char) :
    ∃ r, trimEnd (c :: s) = c :: r := by
  have hsplit : (s.reverse ++ [c]).dropWhile isBlank
      = (s.reverse.dropWhile isBlank) ++ [c] := by
    rw [List.dropWhile_append]
    split
    · next hnil =>
      have hnil' : s.reverse.dropWhile isBlank = [] := by simpa using hnil
      rw [hnil']
      simp [h]
    · rfl
  refine ⟨(s.reverse.dropWhile isBlank).reverse, ?_⟩
  simp [trimEnd, hsplit]

theorem trim_trim (s : List Char) : trim (trim s) = trim s := by
  have hstart : trimStart (trim s) = trim s := by
    rcases trimStart_eq_nil_or_cons s with h | ⟨c, r, h, hc⟩
    · rw [trim, h]
      rfl
    · obtain ⟨r', hr'⟩ := trimEnd_cons_of_not_blank hc r
      rw [trim, h, hr', trimStart_cons_of_not_blank hc]
  rw [show trim (trim s) = trimEnd (trimStart (trim s)) from rfl, hstart]
  exact trimEnd_trimEnd (trimStart s)

end RecurringBilling.Text
