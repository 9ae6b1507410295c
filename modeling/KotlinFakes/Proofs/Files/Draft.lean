import KotlinFakes.Proofs.Files.Deposit

/-!
# Drafts beside their files

Where a path leads to a file, its draft is in the same directory under another name. A path that ends
with two dots has its draft elsewhere, but leads to no file.
-/

namespace KotlinFakes

namespace Disk

variable {disk : Disk} {path : Path}

theorem asDirectory_of_dots {here : Place} {before : List String} {target : Target}
    (h : disk.follow here (before ++ [".."]) = .ok target) : target.asDirectory = true := by
  induction before generalizing here with
  | nil =>
      obtain rfl := Except.ok.inj h
      rfl
  | cons name rest ih =>
      rw [List.cons_append, follow] at h
      have hdots : (rest ++ [".."]).all (· = "") = false := by simp
      split at h
      · exact ih h
      · split at h
        · exact ih h
        · split at h
          · exact ih h
          · split at h
            · cases h
            · rw [hdots, if_neg Bool.false_ne_true] at h
              split at h
              · exact ih h
              · cases h
              · cases h

theorem exists_place_of_hasFile (h : disk.hasFile path) : ∃ directory name,
    path.draft.place disk.home = directory ++ [name ++ ".tmp"] ∧
      (path.place disk.home = directory ∨ path.place disk.home = directory ++ [name]) := by
  obtain ⟨before, directory, name, hsegments, hplace, hdraft⟩ := path.exists_place_draft disk.home
  obtain ⟨target, content, htarget, hdirectory, -⟩ := hasFile_iff.1 h
  refine ⟨directory, name, hdraft, ?_⟩
  have hdots : name ≠ ".." := by
    rintro rfl
    unfold Disk.target at htarget
    rw [hsegments] at htarget
    split at htarget
    · cases htarget
    · split at htarget
      · cases htarget
      · split at htarget
        · cases htarget
        · rw [asDirectory_of_dots htarget] at hdirectory
          cases hdirectory
  rw [hplace, Path.step, if_neg hdots]
  split
  · exact .inl rfl
  · exact .inr rfl

theorem place_ne_draft_of_hasFile (h : disk.hasFile path) :
    path.place disk.home ≠ path.draft.place disk.home := by
  obtain ⟨directory, name, hdraft, hplace | hplace⟩ := exists_place_of_hasFile h
  · simp [hdraft, hplace]
  · rw [hdraft, hplace]
    exact (draft_ne_name directory name).symm

theorem draft_outside_of_hasFile (h : disk.hasFile path) {directory : Place}
    (houtside : ¬ directory <+: path.place disk.home) {names : List String} (hne : names ≠ []) :
    directory ++ names ≠ path.draft.place disk.home := by
  obtain ⟨here, name, hdraft, hplace⟩ := exists_place_of_hasFile h
  intro hsame
  obtain ⟨before, last, rfl⟩ := List.eq_nil_or_concat names |>.resolve_left hne
  rw [hdraft, List.concat_eq_append, ← List.append_assoc] at hsame
  have hhere : directory <+: here := ⟨before, (List.append_inj' hsame rfl).1⟩
  obtain hplace | hplace := hplace
  · exact houtside (hplace ▸ hhere)
  · exact houtside (hplace ▸ hhere.trans (List.prefix_append _ _))

end Disk

end KotlinFakes
