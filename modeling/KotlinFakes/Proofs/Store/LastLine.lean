import KotlinFakes.Proofs.Store.Reload

/-!
# Last lines that are not ended

What is appended to a text goes on in its last line. If that line is blank, an appended entry is read as
it was written. If it is not, the two become one line, which is never read as the appended entry.
-/

namespace KotlinFakes

namespace Text

theorem exists_pieces_concat (separator : Char) (text : List Char) :
    ∃ before last, ∀ more, separator ∉ more →
      pieces separator (text ++ more) = before ++ [last ++ more] := by
  induction text with
  | nil => exact ⟨[], [], fun more h => pieces_of_not_mem h⟩
  | cons c rest ih =>
      obtain ⟨before, last, hpieces⟩ := ih
      by_cases hc : c = separator
      · refine ⟨[] :: before, last, fun more h => ?_⟩
        rw [List.cons_append, hc, pieces_cons_self, hpieces more h, List.cons_append]
      · cases before with
        | nil =>
            exact ⟨[], c :: last, fun more h => pieces_cons_of_ne hc (hpieces more h)⟩
        | cons first others =>
            exact ⟨(c :: first) :: others, last, fun more h => pieces_cons_of_ne hc (hpieces more h)⟩

end Text

namespace Entries

open Text

/-- The last line of a text, as far as it goes. -/
def lastLine (text : String) : List Char := (pieces '\n' text.toList).getLastD []

/-- The entries of all lines but the last. -/
def above (text : String) : Entries := (pieces '\n' text.toList).dropLast.foldl addLine empty

theorem foldl_addLine_append (text : String) {more : List Char} (h : '\n' ∉ more) :
    (pieces '\n' (text.toList ++ more)).foldl addLine empty =
      (above text).addLine (lastLine text ++ more) := by
  obtain ⟨before, last, hpieces⟩ := exists_pieces_concat '\n' text.toList
  have htext := hpieces [] (by simp)
  rw [List.append_nil, List.append_nil] at htext
  rw [hpieces more h, above, lastLine, htext, List.dropLast_concat, List.getLastD_concat,
    List.foldl_append]
  rfl

theorem parse_eq_above (text : String) : parse text = (above text).addLine (lastLine text) := by
  have hnone : '\n' ∉ ([] : List Char) := by simp
  simpa [parse] using foldl_addLine_append text hnone

theorem parse_append_joined (text : String) {id digest : String} (h : IsEntry id digest) :
    parse (text ++ line id digest) =
      (above text).addLine (lastLine text ++ (id.toList ++ '=' :: digest.toList)) := by
  have hline : (text ++ line id digest).toList =
      (text.toList ++ (id.toList ++ '=' :: digest.toList)) ++ ['\n'] := by
    simp [line]
  rw [← foldl_addLine_append text h.unbroken, parse, hline, pieces_append_cons, List.foldl_append]
  rfl

theorem addLine_of_blank (entries : Entries) {blanks : List Char} (h : ∀ c ∈ blanks, isBlank c) :
    entries.addLine blanks = entries := by
  have htrim : trim blanks = [] := by simpa [trim] using trim_append_of_blank h []
  simp [addLine, readLine?, htrim]

theorem addLine_append_of_blank (entries : Entries) {blanks : List Char}
    (h : ∀ c ∈ blanks, isBlank c) (line : List Char) :
    entries.addLine (blanks ++ line) = entries.addLine line := by
  simp only [addLine, readLine?, trim_append_of_blank h]

theorem readLine?_append_ne {before : List Char} (h : ∃ c ∈ before, isBlank c = false)
    (id digest : String) :
    readLine? (before ++ (id.toList ++ '=' :: digest.toList)) ≠ some (id, digest) := by
  intro hread
  obtain ⟨-, first, second, hcut, hid, hdigest, -⟩ := readLine?_eq_some_iff.1 hread
  -- All characters that are no blanks would have to be found again in the entry.
  have hcount := countP_trim (before ++ (id.toList ++ '=' :: digest.toList))
  rw [(cut_eq_some hcut).1] at hcount
  have hfirst := countP_trim first
  have hsecond := countP_trim second
  have hbefore : 0 < before.countP fun c => !isBlank c := by
    obtain ⟨c, hc, hblank⟩ := h
    exact List.countP_pos_iff.2 ⟨c, hc, by simp [hblank]⟩
  rw [hid] at hfirst
  rw [hdigest] at hsecond
  simp only [List.countP_append, List.countP_cons] at hcount
  omega

theorem get?_addLine_append_ne (entries : Entries) {before : List Char}
    (h : ∃ c ∈ before, isBlank c = false) {id digest : String} (hunknown : entries.get? id ≠ some digest) :
    (entries.addLine (before ++ (id.toList ++ '=' :: digest.toList))).get? id ≠ some digest := by
  have hread := readLine?_append_ne h id digest
  unfold addLine
  split
  · next other found hother =>
      rw [get?_insert]
      split
      · next heq =>
          rintro hfound
          rw [hother, ← heq, Option.some.inj hfound] at hread
          exact hread rfl
      · exact hunknown
  · exact hunknown

/-! ## Appended entries -/

/-- A text with the lines of some entries appended to it. Where there is no text yet, the header
    comes first. -/
def appendAll (text : Option String) (signed : List (String × Signature)) : String :=
  signed.foldl (fun text entry => text ++ line entry.1 entry.2.digest) (text.getD (header ++ "\n"))

theorem parse_appendAll {text : String} (h : EndsLine text) {signed : List (String × Signature)}
    (hdotted : ∀ entry ∈ signed, Identifier.isDotted entry.1) :
    parse (appendAll (some text) signed) = (parse text).recordAll signed := by
  induction signed generalizing text with
  | nil => rfl
  | cons entry rest ih =>
      have htidy := isTidy_of_isDotted (hdotted entry (by simp)) entry.2
      have hrest := ih (endsLine_append_line text entry.1 entry.2.digest)
        fun other hother => hdotted other (List.mem_cons_of_mem _ hother)
      rw [parse_append_line h htidy.isEntry] at hrest
      exact hrest

/-- Of the entries that are appended to a text, only the first is joined with what stands there. -/
theorem parse_appendAll_cons (text : Option String) {id : String} {signature : Signature}
    {rest : List (String × Signature)}
    (hdotted : ∀ entry ∈ (id, signature) :: rest, Identifier.isDotted entry.1) :
    parse (appendAll text ((id, signature) :: rest)) =
      ((above (text.getD "")).addLine
        (lastLine (text.getD "") ++ (id.toList ++ '=' :: signature.digest.toList))).recordAll rest := by
  have hentry := (isTidy_of_isDotted (hdotted (id, signature) (by simp)) signature).isEntry
  have hrest := parse_appendAll
    (endsLine_append_line (text.getD (header ++ "\n")) id signature.digest)
    fun other hother => hdotted other (List.mem_cons_of_mem _ hother)
  refine hrest.trans ?_
  rw [parse_append_joined _ hentry]
  cases text with
  | none => rfl
  | some text => rfl

end Entries

end KotlinFakes
