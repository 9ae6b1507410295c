import KotlinFakes.Proofs.Files.Target

/-!
# Files below the output directory

Each directory of a package is appended to the output directory as it is written. A relative one leads
further down, whatever slashes it contains, and an absolute one replaces what is in front of it. So the
files of a blueprint are below every output directory if and only if no directory of its package is
absolute, and then two files are at the same place if and only if they have the same names on the way.
-/

namespace KotlinFakes

namespace Path

/-- Whether a path continues another one by plain names. -/
structure Continues (output p : Path) (rest : List String) : Prop where
  isAbsolute : p.isAbsolute = output.isAbsolute
  names : p.names = output.names ++ rest
  plain : ∀ name ∈ rest, IsPlain name

/-- Whether a path leads further down from a directory, over plain names. -/
def IsBelow (output p : Path) : Prop := ∃ rest, rest ≠ [] ∧ output.Continues p rest

variable {output p q : Path} {rest more : List String} {segment : String}

theorem Continues.refl (output : Path) : output.Continues output [] :=
  ⟨rfl, (List.append_nil _).symm, by simp⟩

theorem Continues.trans (h : output.Continues p rest) (hnext : p.Continues q more) :
    output.Continues q (rest ++ more) where
  isAbsolute := hnext.isAbsolute.trans h.isAbsolute
  names := by rw [hnext.names, h.names, List.append_assoc]
  plain := List.forall_mem_append.2 ⟨h.plain, hnext.plain⟩

theorem Continues.place_eq (h : output.Continues p rest) (home : Place) :
    p.place home = output.place home ++ rest := by
  rw [place_eq_names, place_eq_names, h.names, root, root, h.isAbsolute, List.foldl_append,
    foldl_step_of_isPlain h.plain]

theorem continues_join (p : Path) (habsolute : isAbsolute ⟨segment⟩ = false)
    (hdots : '.' ∉ segment.toList) : p.Continues (p.join segment) (names ⟨segment⟩) := by
  obtain ⟨before, hsegments, hnames, hjoin⟩ := p.segments_join_of_relative habsolute
  refine ⟨hjoin, ?_, fun name hname => ?_⟩
  · rw [names, hsegments, List.filter_append, hnames]
    rfl
  · obtain ⟨hmem, hidle⟩ := List.mem_filter.1 hname
    obtain ⟨piece, hpiece, rfl⟩ := List.mem_map.1 hmem
    have hne : String.ofList piece ≠ "" ∧ String.ofList piece ≠ "." := by
      rw [← not_or, ← isIdle_iff]
      simpa using hidle
    -- The segment that goes up has dots, and there are none to make it from.
    refine ⟨hne.1, hne.2, fun hup => hdots (Text.subset_of_mem_pieces hpiece ?_), ?_⟩
    · rw [← String.toList_ofList (l := piece), hup]
      decide
    · rw [String.toList_ofList]
      exact Text.not_mem_of_mem_pieces hpiece

theorem IsPlain.continues_join (h : IsPlain segment) (p : Path) :
    p.Continues (p.join segment) [segment] := by
  obtain ⟨-, -, -, habsolute⟩ := p.segments_join h
  exact ⟨habsolute, names_join p h, by simpa using h⟩

theorem continues_joinAll {dirs : List String} (h : ∀ dir ∈ dirs, isAbsolute ⟨dir⟩ = false)
    (hdots : ∀ dir ∈ dirs, '.' ∉ dir.toList) (p : Path) :
    p.Continues (p.joinAll dirs) (dirs.flatMap fun dir => names ⟨dir⟩) := by
  induction dirs generalizing p with
  | nil => exact .refl p
  | cons dir dirs ih =>
      rw [List.forall_mem_cons] at h hdots
      exact (p.continues_join h.1 hdots.1).trans (ih h.2 hdots.2 (p.join dir))

theorem join_of_isAbsolute (h : isAbsolute ⟨segment⟩) (p : Path) : p.join segment = ⟨segment⟩ :=
  if_pos h

theorem exists_joinAll_eq {dirs : List String} (h : ∃ dir ∈ dirs, isAbsolute ⟨dir⟩)
    (hdots : ∀ dir ∈ dirs, '.' ∉ dir.toList) :
    ∃ away : Path, away.isAbsolute ∧ ∀ p : Path, p.joinAll dirs = away := by
  induction dirs with
  | nil => simp at h
  | cons dir dirs ih =>
      rw [List.forall_mem_cons] at hdots
      -- The last absolute path decides: whatever comes after it continues it.
      by_cases hrest : ∃ other ∈ dirs, isAbsolute ⟨other⟩
      · obtain ⟨away, habsolute, heq⟩ := ih hrest hdots.2
        exact ⟨away, habsolute, fun p => heq (p.join dir)⟩
      · have hdir : isAbsolute ⟨dir⟩ := by simpa [hrest] using h
        have hrelative : ∀ other ∈ dirs, isAbsolute ⟨other⟩ = false := by simpa using hrest
        refine ⟨joinAll ⟨dir⟩ dirs, ?_, fun p => ?_⟩
        · rw [(continues_joinAll hrelative hdots.2 ⟨dir⟩).isAbsolute]
          exact hdir
        · rw [joinAll, List.foldl_cons, join_of_isAbsolute hdir]
          rfl

end Path

namespace Blueprint

open KotlinFakes.Path

/-- Whether no directory of the package is absolute. -/
def HasRelativeDirs (b : Blueprint) : Prop :=
  ∀ dir ∈ packageDirs b.package, Path.isAbsolute ⟨dir⟩ = false

instance (b : Blueprint) : Decidable b.HasRelativeDirs :=
  inferInstanceAs (Decidable (∀ dir ∈ packageDirs b.package, _))

/-- The names between the dots and slashes of the package. -/
def dirNames (b : Blueprint) : List String :=
  (packageDirs b.package).flatMap fun dir => Path.names ⟨dir⟩

theorem not_mem_of_mem_packageDirs {package dir : String} (h : dir ∈ packageDirs package) :
    '.' ∉ dir.toList := by
  obtain ⟨piece, hpiece, rfl⟩ := List.mem_map.1 (List.mem_filter.1 h).1
  rw [String.toList_ofList]
  exact Text.not_mem_of_mem_pieces hpiece

variable {b b' : Blueprint}

theorem HasRelativeDirs.continues_targetPath (h : b.HasRelativeDirs) (hname : Identifier.isValid b.name)
    (output : Path) :
    output.Continues (b.targetPath output) (b.dirNames ++ [Fake.fileName b.name]) :=
  (continues_joinAll h (fun _ => not_mem_of_mem_packageDirs) output).trans
    ((isPlain_fileName hname).continues_join _)

theorem exists_targetPath_eq (h : ¬b.HasRelativeDirs) (hname : Identifier.isValid b.name) :
    ∃ away : Path, away.isAbsolute ∧ ∀ output, b.targetPath output = away := by
  have hexists : ∃ dir ∈ packageDirs b.package, Path.isAbsolute ⟨dir⟩ := by
    simpa [HasRelativeDirs] using h
  obtain ⟨dirs, habsolute, heq⟩ := exists_joinAll_eq hexists fun _ => not_mem_of_mem_packageDirs
  refine ⟨dirs.join (Fake.fileName b.name), ?_, fun output => by rw [targetPath, heq]⟩
  rw [((isPlain_fileName hname).continues_join dirs).isAbsolute]
  exact habsolute

/-- The file of a blueprint is below every output directory if and only if no directory of its package
    is absolute. -/
theorem forall_isBelow_iff (hname : Identifier.isValid b.name) :
    (∀ output : Path, output.IsBelow (b.targetPath output)) ↔ b.HasRelativeDirs := by
  constructor
  · intro hbelow
    by_contra hdirs
    obtain ⟨away, habsolute, heq⟩ := exists_targetPath_eq hdirs hname
    obtain ⟨rest, -, hcontinues⟩ := hbelow ⟨""⟩
    rw [heq] at hcontinues
    have hrelative := hcontinues.isAbsolute
    rw [habsolute] at hrelative
    cases hrelative
  · exact fun h output => ⟨_, by simp, h.continues_targetPath hname output⟩

/-- Two files below the output directory are at the same place if and only if the names of their
    directories and classes are the same. -/
theorem place_targetPath_eq_iff (h : b.HasRelativeDirs) (h' : b'.HasRelativeDirs)
    (hname : Identifier.isValid b.name) (hname' : Identifier.isValid b'.name) (output : Path)
    (home : Place) :
    (b.targetPath output).place home = (b'.targetPath output).place home ↔
      b.dirNames = b'.dirNames ∧ b.name = b'.name := by
  rw [(h.continues_targetPath hname output).place_eq, (h'.continues_targetPath hname' output).place_eq,
    List.append_cancel_left_eq]
  constructor
  · intro heq
    obtain ⟨hdirs, hfile⟩ := List.append_inj' heq rfl
    exact ⟨hdirs, fileName_inj (List.cons.inj hfile).1⟩
  · rintro ⟨hdirs, hnames⟩
    rw [hdirs, hnames]

/-- Whether the package is empty or has plain names between its dots. -/
def HasPlainPackage (b : Blueprint) : Prop :=
  b.package = "" ∨ ∀ segment ∈ Text.segments b.package, IsPlain segment

namespace HasPlainPackage

theorem of_isDotted (h : Identifier.isDotted b.package) : b.HasPlainPackage :=
  .inr fun segment hsegment => isPlain_of_isValid (List.all_eq_true.1 h segment hsegment)

theorem isPlain (h : b.HasPlainPackage) : ∀ dir ∈ packageDirs b.package, IsPlain dir := by
  intro dir hdir
  obtain h | h := h
  · rw [h, packageDirs_empty] at hdir
    cases hdir
  · exact h dir (List.mem_filter.1 hdir).1

theorem hasRelativeDirs (h : b.HasPlainPackage) : b.HasRelativeDirs := fun dir hdir =>
  isAbsolute_of_not_mem (h.isPlain dir hdir).not_mem

theorem dirNames_eq (h : b.HasPlainPackage) : b.dirNames = packageDirs b.package := by
  have hplain := h.isPlain
  unfold dirNames
  generalize packageDirs b.package = dirs at hplain
  induction dirs with
  | nil => rfl
  | cons dir dirs ih =>
      rw [List.forall_mem_cons] at hplain
      rw [List.flatMap_cons, ih hplain.2, names, segments_of_not_mem hplain.1.not_mem,
        List.filter_singleton, hplain.1.not_idle]
      rfl

theorem joinWith_dirNames (h : b.HasPlainPackage) : Text.joinWith "." b.dirNames = b.package := by
  rw [h.dirNames_eq]
  obtain h | h := h
  · rw [h]
    rfl
  · have hdirs : packageDirs b.package = Text.segments b.package :=
      List.filter_eq_self.2 fun segment hsegment => by simpa using (h segment hsegment).ne_empty
    rw [hdirs, Text.joinWith_segments]

end HasPlainPackage

end Blueprint

namespace FakeFile

open Blueprint KotlinFakes.Path

variable {options options' : FileOptions} {b b' : Blueprint} {file file' : FakeFile}

/-- A file is below every output directory if and only if no directory of its package is absolute, and
    otherwise it has one absolute path, whatever the output directory. Two files below the output
    directory are at the same place if and only if the names of their directories and classes are the
    same, so those of different declarations are apart if there are plain names between the dots of
    their packages. -/
theorem targetPath_below_and_apart (h : generate options b = .ok file)
    (h' : generate options' b' = .ok file') :
    ((∀ output : Path, output.IsBelow (b.targetPath output)) ↔ b.HasRelativeDirs) ∧
    (¬b.HasRelativeDirs →
      ∃ away : Path, away.isAbsolute ∧ ∀ output, b.targetPath output = away) ∧
    (b.HasRelativeDirs → b'.HasRelativeDirs → ∀ output home,
      (b.targetPath output).place home = (b'.targetPath output).place home ↔
        b.dirNames = b'.dirNames ∧ b.name = b'.name) ∧
    (b.HasPlainPackage → b'.HasPlainPackage → b.qualifiedName ≠ b'.qualifiedName → ∀ output home,
      (b.targetPath output).place home ≠ (b'.targetPath output).place home) := by
  have hname : Identifier.isValid b.name := isValid_of_generate h _ List.mem_cons_self
  have hname' : Identifier.isValid b'.name := isValid_of_generate h' _ List.mem_cons_self
  refine ⟨forall_isBelow_iff hname, fun hdirs => exists_targetPath_eq hdirs hname,
    fun hdirs hdirs' output home => place_targetPath_eq_iff hdirs hdirs' hname hname' output home, ?_⟩
  intro hpackage hpackage' hne output home heq
  rw [place_targetPath_eq_iff hpackage.hasRelativeDirs hpackage'.hasRelativeDirs hname hname'] at heq
  apply hne
  rw [qualifiedName, qualifiedName, ← hpackage.joinWith_dirNames, ← hpackage'.joinWith_dirNames,
    heq.1, heq.2]

/-- An empty interface `Crate` in some package. -/
def crate (package : String) : Blueprint where
  id := QualifiedName.within package "Crate"
  supertype := .interface
  package := package
  name := "Crate"
  typeParams := []
  functions := []
  properties := []
  generics := .absent

/-- Packages of names have their files below the output directory, and apart from each other. -/
theorem targetPath_below_and_apart_crate :
    (∃ file, generate ⟨true⟩ (crate "app.io") = .ok file) ∧
    (∃ file, generate ⟨true⟩ (crate "app") = .ok file) ∧
    (∀ output : Path, output.IsBelow ((crate "app.io").targetPath output)) ∧
    ∀ output home, ((crate "app.io").targetPath output).place home ≠
      ((crate "app").targetPath output).place home := by
  have hfile : generate ⟨true⟩ (crate "app.io") = .ok _ := rfl
  have hfile' : generate ⟨true⟩ (crate "app") = .ok _ := rfl
  obtain ⟨hbelow, -, -, hapart⟩ := targetPath_below_and_apart hfile hfile'
  exact ⟨⟨_, hfile⟩, ⟨_, hfile'⟩, hbelow.2 (by decide +kernel),
    hapart (.of_isDotted (by decide +kernel)) (.of_isDotted (by decide +kernel)) (by decide +kernel)⟩

/-- A package that starts with a slash leads away from the output directory, and one that ends in a dot
    has its files where those of the package without the dot are. -/
theorem exists_targetPath_away_and_collision :
    (∃ file, generate ⟨true⟩ (crate "/etc") = .ok file ∧
      ∀ output, (crate "/etc").targetPath output = ⟨"/etc/FakeCrateImpl.kt"⟩) ∧
    ∃ file file', generate ⟨true⟩ (crate "app") = .ok file ∧
      generate ⟨true⟩ (crate "app.") = .ok file' ∧ (crate "app").id ≠ (crate "app.").id ∧
      ∀ output, (crate "app").targetPath output = (crate "app.").targetPath output := by
  have hetc : packageDirs "/etc" = ["/etc"] := by decide +kernel
  have hdirs : packageDirs "app." = packageDirs "app" := by decide +kernel
  refine ⟨⟨_, rfl, fun output => ?_⟩, _, _, rfl, rfl, by decide +kernel, fun output => ?_⟩
  · have hjoin : output.join "/etc" = ⟨"/etc"⟩ := join_of_isAbsolute (by decide +kernel) output
    rw [targetPath, crate, hetc, joinAll, List.foldl_cons, hjoin]
    decide +kernel
  · rw [targetPath, targetPath, crate, crate, hdirs]

end FakeFile

end KotlinFakes
