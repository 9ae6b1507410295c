import KotlinFakes.Text.Run

/-!
# Blank characters

The Unicode property `White_Space`, and trimming by it.
-/

namespace KotlinFakes.Text

/-- The property `White_Space`. -/
def blankRuns : List Run := [
  ⟨0x9, 0xD, 1⟩, ⟨0x20, 0x20, 1⟩, ⟨0x85, 0x85, 1⟩, ⟨0xA0, 0xA0, 1⟩, ⟨0x1680, 0x1680, 1⟩,
  ⟨0x2000, 0x200A, 1⟩, ⟨0x2028, 0x2029, 1⟩, ⟨0x202F, 0x202F, 1⟩, ⟨0x205F, 0x205F, 1⟩,
  ⟨0x3000, 0x3000, 1⟩]

/-- Whether a character has the property `White_Space`. -/
def isBlank (c : Char) : Bool :=
  Run.anyHolds blankRuns c.toNat

/-- A text without the blanks at its two ends. -/
def trim (text : List Char) : List Char :=
  ((text.dropWhile isBlank).reverse.dropWhile isBlank).reverse

end KotlinFakes.Text
