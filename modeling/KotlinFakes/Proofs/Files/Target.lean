import KotlinFakes.Proofs.Files.Place
import KotlinFakes.Proofs.WellNamed

/-!
# Places of generated files

The file of a well-named blueprint has a place of its own below the output directory: different
declarations have different places, and no draft is ever put where a file belongs.
-/

namespace KotlinFakes

open KotlinFakes.Path

theorem Path.isPlain_of_isValid {name : String} (h : Identifier.isValid name) : IsPlain name := by
  have hdot : '.' ∉ name.toList := Identifier.not_mem_of_isValid h (by decide)
  refine ⟨Identifier.isValid_ne_empty h, ?_, ?_, Identifier.not_mem_of_isValid h (by decide)⟩
  · rintro rfl
    exact hdot (by decide)
  · rintro rfl
    exact hdot (by decide)

namespace Blueprint

theorem packageDirs_of_isDotted {package : String} (h : Identifier.isDotted package) :
    packageDirs package = Text.segments package := by
  refine List.filter_eq_self.2 fun segment hsegment => ?_
  have hvalid := List.all_eq_true.1 h segment hsegment
  simpa using Identifier.isValid_ne_empty hvalid

theorem packageDirs_empty : packageDirs "" = [] := rfl

theorem isPlain_of_mem_packageDirs {package : String}
    (h : package = "" ∨ Identifier.isDotted package) :
    ∀ segment ∈ packageDirs package, IsPlain segment := by
  intro segment hsegment
  obtain rfl | h := h
  · simp [packageDirs_empty] at hsegment
  · rw [packageDirs_of_isDotted h] at hsegment
    exact isPlain_of_isValid (List.all_eq_true.1 h segment hsegment)

theorem packageDirs_inj {package package' : String}
    (h : package = "" ∨ Identifier.isDotted package)
    (h' : package' = "" ∨ Identifier.isDotted package')
    (heq : packageDirs package = packageDirs package') : package = package' := by
  have hne {package : String} (h : Identifier.isDotted package) : packageDirs package ≠ [] := by
    rw [packageDirs_of_isDotted h]
    exact Text.segments_ne_nil package
  obtain rfl | h := h <;> obtain rfl | h' := h'
  · rfl
  · exact absurd heq.symm (hne h')
  · exact absurd heq (hne h)
  · rw [packageDirs_of_isDotted h, packageDirs_of_isDotted h'] at heq
    rw [← Text.joinWith_segments package, heq, Text.joinWith_segments]

theorem isPlain_fileName {name : String} (h : Identifier.isValid name) :
    IsPlain (Fake.fileName name) := by
  have hlast (other : String) (hother : other.toList.getLast? ≠ some 't') :
      Fake.fileName name ≠ other := fun heq => by
    apply hother
    rw [← heq]
    exact Text.getLast?_append _ _ (by decide)
  refine ⟨hlast _ (by decide), hlast _ (by decide), hlast _ (by decide), ?_⟩
  have := Identifier.not_mem_of_isValid h (c := '/') (by decide)
  simp [Fake.fileName, Fake.implementationClass, this]

theorem fileName_inj {name name' : String} (h : Fake.fileName name = Fake.fileName name') :
    name = name' := by
  simpa [Fake.fileName, Fake.implementationClass] using h

theorem fileName_ne_draft (name other : String) : Fake.fileName name ≠ other ++ ".tmp" := by
  intro h
  have hfile := Text.getLast?_append (Fake.implementationClass name) ".kt" (c := 't') (by decide)
  have hdraft := Text.getLast?_append other ".tmp" (c := 'p') (by decide)
  rw [← h, Fake.fileName, hfile] at hdraft
  cases hdraft

end Blueprint

/-! ## Addresses -/

/-- Where the file of a fake belongs below a directory. -/
def Path.fakePath (output : Path) (package name : String) : Path :=
  (output.joinAll (Blueprint.packageDirs package)).join (Fake.fileName name)

/-- Whether a package and a name are in order, which gives the fake a place of its own. -/
structure IsAddress (package name : String) : Prop where
  package : package = "" ∨ Identifier.isDotted package
  name : Identifier.isValid name

namespace IsAddress

open Blueprint

variable {package name package' name' : String} {output : Path} {home : Place}

theorem place_fakePath (h : IsAddress package name) :
    (output.fakePath package name).place home =
      output.place home ++ packageDirs package ++ [Fake.fileName name] := by
  rw [fakePath, place_join (isPlain_fileName h.name),
    place_joinAll (isPlain_of_mem_packageDirs h.package)]

theorem place_draft_fakePath (h : IsAddress package name) :
    (output.fakePath package name).draft.place home =
      output.place home ++ packageDirs package ++ [Fake.fileName name ++ ".tmp"] := by
  rw [fakePath, place_draft_join (isPlain_fileName h.name),
    place_joinAll (isPlain_of_mem_packageDirs h.package)]

/-- Different declarations have their files at different places. -/
theorem eq_of_place_eq (h : IsAddress package name) (h' : IsAddress package' name')
    (hplace : (output.fakePath package name).place home =
      (output.fakePath package' name').place home) : package = package' ∧ name = name' := by
  rw [h.place_fakePath, h'.place_fakePath] at hplace
  obtain ⟨hdirs, hfile⟩ := List.append_inj' hplace rfl
  have hname := fileName_inj (List.cons.inj hfile).1
  exact ⟨packageDirs_inj h.package h'.package (List.append_cancel_left hdirs), hname⟩

theorem place_ne (h : IsAddress package name) (h' : IsAddress package' name')
    (hne : QualifiedName.within package' name' ≠ QualifiedName.within package name) :
    (output.fakePath package name).place home ≠ (output.fakePath package' name').place home := by
  intro hplace
  obtain ⟨rfl, rfl⟩ := h.eq_of_place_eq h' hplace
  exact hne rfl

theorem place_ne_draft (h : IsAddress package name) (path : Path) :
    (output.fakePath package name).place home ≠ path.draft.place home := by
  obtain ⟨-, directory, other, -, -, hdraft⟩ := exists_place_draft path home
  rw [h.place_fakePath, hdraft]
  intro heq
  exact fileName_ne_draft _ _ (List.cons.inj (List.append_inj' heq rfl).2).1

theorem prefix_place (h : IsAddress package name) :
    output.place home <+: (output.fakePath package name).place home := by
  rw [h.place_fakePath, List.append_assoc]
  exact List.prefix_append _ _

theorem prefix_place_draft (h : IsAddress package name) :
    output.place home <+: (output.fakePath package name).draft.place home := by
  rw [h.place_draft_fakePath, List.append_assoc]
  exact List.prefix_append _ _

end IsAddress

namespace Blueprint.WellNamed

variable {b b' : Blueprint} {output : Path} {home : Place}

theorem isAddress (h : b.WellNamed) : IsAddress b.package b.name := ⟨h.package, h.name⟩

theorem targetPath_eq_of_id_eq (h : b.WellNamed) (h' : b'.WellNamed) (hid : b.id = b'.id) :
    b.targetPath output = b'.targetPath output := by
  rw [h.id_eq, h'.id_eq] at hid
  obtain ⟨hpackage, hname⟩ := QualifiedName.within_inj
    (Identifier.not_mem_of_isValid h.name (by decide))
    (Identifier.not_mem_of_isValid h'.name (by decide)) hid
  rw [targetPath, targetPath, hpackage, hname]

theorem id_eq_of_place_eq (h : b.WellNamed) (h' : b'.WellNamed)
    (hplace : (b.targetPath output).place home = (b'.targetPath output).place home) :
    b.id = b'.id := by
  obtain ⟨hpackage, hname⟩ := h.isAddress.eq_of_place_eq h'.isAddress hplace
  rw [h.id_eq, h'.id_eq, qualifiedName, qualifiedName, hpackage, hname]

theorem place_ne_draft (h : b.WellNamed) (path : Path) :
    (b.targetPath output).place home ≠ path.draft.place home :=
  h.isAddress.place_ne_draft path

theorem prefix_place (h : b.WellNamed) : output.place home <+: (b.targetPath output).place home :=
  h.isAddress.prefix_place

theorem prefix_place_draft (h : b.WellNamed) :
    output.place home <+: (b.targetPath output).draft.place home :=
  h.isAddress.prefix_place_draft

end Blueprint.WellNamed

end KotlinFakes
