import Schemata.Text.Ranges

/-!
# Blanks

The characters of the Unicode property `White_Space` separate words and are trimmed from the ends
of literals. A zero-width space is not among them.
-/

namespace Schemata.Text

/-- The characters with the property `White_Space`. -/
def blankRanges : Ranges :=
  ⟨[(0x9, 0xD), (0x20, 0x20), (0x85, 0x85), (0xA0, 0xA0), (0x1680, 0x1680), (0x2000, 0x200A),
    (0x2028, 0x2029), (0x202F, 0x202F), (0x205F, 0x205F), (0x3000, 0x3000)]⟩

/-- Whether a character is blank. -/
def isBlank (c : Char) : Bool := blankRanges.contains c

theorem isBlank_of_isWhitespace {c : Char} (h : c.isWhitespace) : isBlank c := by
  simp only [Char.isWhitespace, Bool.or_eq_true, decide_eq_true_eq] at h
  rcases h with ((rfl | rfl) | rfl) | rfl <;> decide

/-- Drop the blanks at the end. -/
def dropBlankEnd (cs : List Char) : List Char :=
  (cs.reverse.dropWhile isBlank).reverse

/-- Drop the blanks at both ends. -/
def trim (cs : List Char) : List Char :=
  dropBlankEnd (cs.dropWhile isBlank)

/-- The runs of characters between blanks, in order; no run is empty. -/
def words (cs : List Char) : List (List Char) :=
  let step (c : Char) : List Char × List (List Char) → List Char × List (List Char)
    | (word, found) =>
      if isBlank c then ([], if word.isEmpty then found else word :: found)
      else (c :: word, found)
  match cs.foldr step ([], []) with
  | (word, found) => if word.isEmpty then found else word :: found

/-- A text is blank exactly when nothing is left of it by trimming. -/
theorem dropWhile_isBlank_eq_nil {cs : List Char} :
    cs.dropWhile isBlank = [] ↔ ∀ c ∈ cs, isBlank c := by
  induction cs with
  | nil => simp
  | cons c cs ih => by_cases h : isBlank c <;> simp [List.dropWhile, h, ih]

end Schemata.Text
