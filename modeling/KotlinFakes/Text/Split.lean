/-!
# Splitting and joining

Cutting a text at a separator and putting the pieces together again. Main statement: joining the
pieces with the separator gives the text back.
-/

namespace KotlinFakes.Text

/-- The pieces of a text between the occurrences of a separator. There is always at least one. -/
def pieces (separator : Char) : List Char → List (List Char)
  | [] => [[]]
  | c :: rest =>
    if c = separator then [] :: pieces separator rest
    else
      match pieces separator rest with
      | [] => [[c]]
      | piece :: more => (c :: piece) :: more

/-- What stands before and after the first occurrence of a separator, if there is one. -/
def cut (separator : Char) : List Char → Option (List Char × List Char)
  | [] => none
  | c :: rest =>
    if c = separator then some ([], rest)
    else (cut separator rest).map fun (before, after) => (c :: before, after)

/-- The texts of a list with a separator between each two of them. -/
def joinWith (separator : String) : List String → String
  | [] => ""
  | [text] => text
  | text :: next :: rest => text ++ separator ++ joinWith separator (next :: rest)

/-- The dot-separated segments of a text. -/
def segments (text : String) : List String :=
  (pieces '.' text.toList).map String.ofList

theorem pieces_ne_nil (separator : Char) (text : List Char) : pieces separator text ≠ [] := by
  cases text with
  | nil => simp [pieces]
  | cons c rest =>
    unfold pieces
    split
    · simp
    · split <;> simp

theorem joinWith_cons {text : String} {rest : List String} (separator : String) (h : rest ≠ []) :
    joinWith separator (text :: rest) = text ++ separator ++ joinWith separator rest := by
  cases rest with
  | nil => exact absurd rfl h
  | cons next more => rfl

/-- Joining the segments of a text gives the text back. -/
theorem joinWith_pieces (separator : Char) (text : List Char) :
    joinWith (String.singleton separator) ((pieces separator text).map String.ofList) =
      String.ofList text := by
  induction text with
  | nil => simp [pieces, joinWith]
  | cons c rest ih =>
    have hne := pieces_ne_nil separator rest
    unfold pieces
    split
    · next h =>
      subst h
      rw [List.map_cons, joinWith_cons _ (by simpa using hne), ih]
      apply String.toList_inj.1
      simp
    · cases hp : pieces separator rest with
      | nil => exact absurd hp hne
      | cons piece more =>
        rw [hp] at ih
        have hc : String.ofList (c :: rest) = String.singleton c ++ String.ofList rest :=
          String.toList_inj.1 (by simp)
        have hd : String.ofList (c :: piece) = String.singleton c ++ String.ofList piece :=
          String.toList_inj.1 (by simp)
        rw [hc, ← ih]
        cases more with
        | nil => simp [joinWith, hd]
        | cons next others =>
          simp only [List.map_cons, joinWith, hd, String.append_assoc]

end KotlinFakes.Text
