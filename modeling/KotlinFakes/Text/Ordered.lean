/-!
# Ordered texts

Lists of texts in ascending order of code points without repetitions.
-/

namespace KotlinFakes.Text

/-- Put a text into an ascending list, unless it is there already. -/
def insertOrdered (text : String) : List String → List String
  | [] => [text]
  | head :: rest =>
    if text < head then text :: head :: rest
    else if text = head then head :: rest
    else head :: insertOrdered text rest

/-- The texts of a list in ascending order, each once. -/
def ordered : List String → List String
  | [] => []
  | text :: rest => insertOrdered text (ordered rest)

@[simp] theorem mem_insertOrdered {text other : String} {texts : List String} :
    other ∈ insertOrdered text texts ↔ other = text ∨ other ∈ texts := by
  induction texts with
  | nil => simp [insertOrdered]
  | cons head rest ih =>
    unfold insertOrdered
    split
    · simp
    · split
      · next h => simp [h]
      · simp only [List.mem_cons, ih]
        constructor
        · rintro (h | h | h) <;> simp [h]
        · rintro (h | h | h) <;> simp [h]

@[simp] theorem mem_ordered {text : String} {texts : List String} :
    text ∈ ordered texts ↔ text ∈ texts := by
  induction texts with
  | nil => simp [ordered]
  | cons head rest ih => simp [ordered, ih]

end KotlinFakes.Text
