import KotlinFakes.Default.Factory
import KotlinFakes.Proofs.Imports.Contest
import KotlinFakes.Proofs.Names

/-!
# Which classes are written short

A class is written by its short name only where a reader of the file finds it under that name: through
an import, in the package of the file or among the classes that every file sees. Nothing is imported
that the file does not need.
-/

namespace KotlinFakes

namespace QualifiedName

variable {name other : QualifiedName}

theorem topLevel_not_dotted (name : QualifiedName) : '.' ∉ name.topLevel.toList := by
  obtain ⟨first, rest, hp⟩ := Text.exists_pieces_eq_cons '.' name.simple.toList
  have htop : name.topLevel = String.ofList first := by simp [topLevel, Text.segments, hp]
  rw [htop, String.toList_ofList]
  exact Text.not_mem_of_mem_pieces (hp ▸ List.mem_cons_self)

theorem importPath_inj (h : name.importPath = other.importPath) :
    name.package = other.package ∧ name.topLevel = other.topLevel :=
  within_inj name.topLevel_not_dotted other.topLevel_not_dotted h

theorem importPath_eq (hpackage : name.package = other.package)
    (htop : name.topLevel = other.topLevel) : name.importPath = other.importPath := by
  rw [importPath, importPath, hpackage, htop]

theorem full_ne_simple (h : name.package ≠ "") : name.full ≠ name.simple := by
  intro heq
  have hlength := congrArg (fun text : String => text.toList.length) heq
  rw [full, within, if_neg h] at hlength
  simp only [String.toList_append, List.length_append] at hlength
  have hdot : ".".toList.length = 1 := rfl
  omega

theorem isDefaultImported_congr (h : name.package = other.package) :
    name.isDefaultImported = other.isDefaultImported := by
  rw [isDefaultImported, isDefaultImported, h]

end QualifiedName

theorem Ty.package_ne_empty_of_className? (t : Ty) {name : QualifiedName}
    (h : t.className? = some name) : name.package ≠ "" := by
  have hlocal {name' : QualifiedName}
      (h : (if name'.package = "" then none else some name') = some name) : name.package ≠ "" := by
    split at h
    · cases h
    · next hne =>
        obtain rfl := Option.some.inj h
        exact hne
  cases t with
  | apply name' args => exact hlocal h
  | named name' => exact hlocal h
  | primitive | nullable | function | param => cases h

namespace Blueprint

/-- The classes that the types of a blueprint mention. -/
def mentionedClasses (b : Blueprint) : List QualifiedName :=
  b.mentionedTypes.flatMap Ty.classNames

/-- The classes among which short names are given away. -/
def knownClasses (b : Blueprint) : List QualifiedName :=
  b.subject :: ImportSet.runtimeClasses ++ b.mentionedClasses

/-- On what grounds the file of a blueprint asks for the short name of a class. -/
inductive Asks (b : Blueprint) (name : QualifiedName) : Ground → Prop where
  | runtime (h : name ∈ ImportSet.runtimeClasses) : Asks b name .runtime
  | imported (h : name ∈ b.mentionedClasses) (hpackage : name.package ≠ b.package)
      (hdefault : ¬ name.isDefaultImported) : Asks b name .imported
  | samePackage (hpackage : name.package = b.package) : Asks b name .samePackage
  | defaultImported (hpackage : name.package ≠ b.package) (hdefault : name.isDefaultImported) :
      Asks b name .defaultImported

/-- How a class can be found under its short name in a file with the given imports. -/
inductive Finds (b : Blueprint) (imports : List String) (name : QualifiedName) : Prop where
  | imported (h : name.importPath ∈ imports)
  | samePackage (hpackage : name.package = b.package)
      (hclear : ∀ other ∈ b.knownClasses, other.topLevel = name.topLevel →
        other.importPath ∉ imports)
  | defaultImported (hdefault : name.isDefaultImported)
      (hclear : ∀ other ∈ b.knownClasses, other.topLevel = name.topLevel →
        other.importPath ∉ imports ∧ other.package ≠ b.package)

end Blueprint

namespace ImportSet

open Contender Blueprint

variable {b : Blueprint} {functions : List QualifiedName} {name other : QualifiedName}

/-! ## Who asks for a short name -/

theorem ofName_eq_imported {package : String} :
    Ground.ofName package name = .imported ↔
      name.package ≠ package ∧ ¬ name.isDefaultImported := by
  unfold Ground.ofName
  split
  · simp_all
  · split <;> simp_all

theorem asks_ofName (h : name ∈ b.mentionedClasses) : b.Asks name (.ofName b.package name) := by
  unfold Ground.ofName
  split
  · next hpackage => exact .samePackage hpackage
  · next hpackage =>
      split
      · next hdefault => exact .defaultImported hpackage hdefault
      · next hdefault => exact .imported h hpackage hdefault

theorem exists_of_mem_contenders {c : Contender} (h : c ∈ contenders b) :
    ∃ name ∈ b.knownClasses, ∃ ground, b.Asks name ground ∧ c = .ofName ground name := by
  simp only [contenders, List.mem_append, List.mem_cons, List.mem_map] at h
  obtain (rfl | ⟨name, hname, rfl⟩) | ⟨name, hname, rfl⟩ := h
  · exact ⟨b.subject, by simp [knownClasses], _, .samePackage rfl, rfl⟩
  · exact ⟨name, by simp [knownClasses, hname], _, .runtime hname, rfl⟩
  · exact ⟨name, by simp [knownClasses, mentionedClasses, hname], _, asks_ofName hname, rfl⟩

theorem exists_mem_contenders (h : name ∈ b.knownClasses) :
    ∃ ground, b.Asks name ground ∧ .ofName ground name ∈ contenders b := by
  simp only [knownClasses, List.mem_append, List.mem_cons] at h
  obtain (rfl | h) | h := h
  · exact ⟨.samePackage, .samePackage rfl, by simp [contenders]⟩
  · exact ⟨.runtime, .runtime h, by
      simp only [contenders, List.mem_append, List.mem_cons, List.mem_map]
      exact .inl (.inr ⟨name, h, rfl⟩)⟩
  · exact ⟨_, asks_ofName h, by
      simp only [contenders, List.mem_append, List.mem_cons, List.mem_map]
      exact .inr ⟨name, h, rfl⟩⟩

theorem shortName_eq_topLevel {c : Contender} (hc : c ∈ contenders b)
    (h : c.path = name.importPath) : c.shortName = name.topLevel := by
  obtain ⟨other, -, ground, -, rfl⟩ := exists_of_mem_contenders hc
  exact (QualifiedName.importPath_inj h).2

/-! ## What is imported and what is written short -/

theorem mem_imports {path : String} : path ∈ (resolve b functions).imports ↔
    (∃ w, Wins (contenders b) w ∧ w.ground.needsImport ∧ w.path = path) ∨
      path = runtimeFunction.importPath ∨
      ∃ f ∈ functions, (f.package ≠ b.package ∧ ¬ f.isDefaultImported) ∧ f.importPath = path := by
  have hwins (w : Contender) : (w ∈ contenders b ∧ w.winner (contenders b) = w) ↔
      Wins (contenders b) w :=
    ⟨fun h => h.2 ▸ wins_winner h.1, fun h => ⟨h.mem, winner_eq_of_wins h h.mem rfl⟩⟩
  simp only [resolve, Text.mem_ordered, List.mem_append, List.mem_map, List.mem_filter,
    List.mem_cons, Bool.and_eq_true, decide_eq_true_eq, ofName_eq_imported]
  constructor
  · rintro (⟨w, ⟨hmem, hwin, hneeds⟩, rfl⟩ | ⟨f, rfl | ⟨hf, hground⟩, rfl⟩)
    · exact .inl ⟨w, (hwins w).1 ⟨hmem, hwin⟩, hneeds, rfl⟩
    · exact .inr (.inl rfl)
    · exact .inr (.inr ⟨f, hf, hground, rfl⟩)
  · rintro (⟨w, hw, hneeds, rfl⟩ | rfl | ⟨f, hf, hground, rfl⟩)
    · exact .inl ⟨w, ⟨hw.mem, ((hwins w).2 hw).2, hneeds⟩, rfl⟩
    · exact .inr ⟨_, .inl rfl, rfl⟩
    · exact .inr ⟨f, .inr ⟨hf, hground⟩, rfl⟩

theorem mem_qualified {path : String} : path ∈ (resolve b functions).qualified ↔
    ∃ c ∈ contenders b, (c.winner (contenders b)).path ≠ c.path ∧ c.path = path := by
  simp only [resolve, Text.mem_ordered, List.mem_map, List.mem_filter, bne_iff_ne, and_assoc]

theorem writeName_cases (set : ImportSet) (hpackage : name.package ≠ "") :
    set.policy.writeName name = name.simple ∧ name.importPath ∉ set.qualified ∨
      set.policy.writeName name = name.full ∧ name.importPath ∈ set.qualified := by
  unfold NamePolicy.writeName NamePolicy.isQualified policy
  by_cases h : name.importPath ∈ set.qualified <;> simp [h, hpackage]

theorem writeName_eq_simple_iff (set : ImportSet) (hpackage : name.package ≠ "") :
    set.policy.writeName name = name.simple ↔ name.importPath ∉ set.qualified := by
  obtain ⟨hwrite, h⟩ | ⟨hwrite, h⟩ := writeName_cases set hpackage
  · simp [hwrite, h]
  · simp [hwrite, h, QualifiedName.full_ne_simple hpackage]

/-- A known class is written short if and only if its import path is the one that wins. -/
theorem writeName_eq_simple_iff_wins (h : name ∈ b.knownClasses) (hpackage : name.package ≠ "") :
    (resolve b functions).policy.writeName name = name.simple ↔
      ∃ w, Wins (contenders b) w ∧ w.path = name.importPath := by
  rw [writeName_eq_simple_iff _ hpackage, mem_qualified]
  constructor
  · intro hnot
    obtain ⟨ground, -, hc⟩ := exists_mem_contenders h
    refine ⟨_, wins_winner hc, ?_⟩
    exact Decidable.byContradiction fun hne => hnot ⟨_, hc, hne, rfl⟩
  · rintro ⟨w, hw, hpath⟩ ⟨c, hc, hne, hcpath⟩
    have hname := shortName_eq_topLevel hw.mem hpath
    rw [winner_eq_of_wins hw hc (hname.trans (shortName_eq_topLevel hc hcpath).symm)] at hne
    exact hne (hpath.trans hcpath.symm)

theorem importPath_eq_of_short (h : name ∈ b.knownClasses) (ho : other ∈ b.knownClasses)
    (hpackage : name.package ≠ "") (hpackage' : other.package ≠ "")
    (htop : name.topLevel = other.topLevel)
    (hshort : (resolve b functions).policy.writeName name = name.simple)
    (hshort' : (resolve b functions).policy.writeName other = other.simple) :
    name.importPath = other.importPath := by
  obtain ⟨w, hw, hpath⟩ := (writeName_eq_simple_iff_wins h hpackage).1 hshort
  obtain ⟨w', hw', hpath'⟩ := (writeName_eq_simple_iff_wins ho hpackage').1 hshort'
  have hname := (shortName_eq_topLevel hw.mem hpath).trans htop
  obtain rfl := hw.unique hw' (hname.trans (shortName_eq_topLevel hw'.mem hpath').symm)
  exact hpath.symm.trans hpath'

/-! ## Why a class is written short -/

theorem package_eq_of_imported {w : Contender} (hw : Wins (contenders b) w)
    (hneeds : w.ground.needsImport = false) (h : other ∈ b.knownClasses)
    (hname : other.topLevel = w.shortName) (himport : other.importPath ∈ (resolve b functions).imports) :
    other.package = b.package := by
  obtain ⟨ground, hasks, hc⟩ := exists_mem_contenders h
  have hrank := rank_le_of_not_precedes (hw.least _ hc hname)
  have hweak : ground.needsImport = false := by
    revert hneeds hrank
    cases w.ground <;> cases ground <;> simp [Ground.needsImport, Contender.ofName, Ground.rank]
  rw [mem_imports] at himport
  obtain ⟨w', hw', hneeds', hpath⟩ | hpath | ⟨f, -, ⟨hpackage, hdefault⟩, hpath⟩ := himport
  · obtain rfl := hw'.unique hw ((shortName_eq_topLevel hw'.mem hpath).trans hname)
    rw [hneeds] at hneeds'
    cases hneeds'
  · obtain ⟨hpackage, -⟩ := QualifiedName.importPath_inj hpath
    cases hasks with
    | runtime | imported => cases hweak
    | samePackage hsame => exact hsame
    | defaultImported _ hdefault =>
        rw [QualifiedName.isDefaultImported_congr hpackage] at hdefault
        exact absurd hdefault (by decide)
  · obtain ⟨hpackage', -⟩ := QualifiedName.importPath_inj hpath
    cases hasks with
    | runtime | imported => cases hweak
    | samePackage hsame => exact hsame
    | defaultImported _ hdefault' =>
        rw [← QualifiedName.isDefaultImported_congr hpackage'] at hdefault'
        exact absurd hdefault' hdefault

theorem finds_of_wins {w : Contender} (hw : Wins (contenders b) w) (hpath : w.path = name.importPath) :
    b.Finds (resolve b functions).imports name := by
  by_cases himport : name.importPath ∈ (resolve b functions).imports
  · exact .imported himport
  obtain ⟨winner, -, ground, hasks, rfl⟩ := exists_of_mem_contenders hw.mem
  obtain ⟨hpackage, htop⟩ := QualifiedName.importPath_inj hpath
  have hneeds : ground.needsImport = false := Bool.eq_false_iff.2 fun hneeds =>
    himport (mem_imports.2 (.inl ⟨_, hw, hneeds, hpath⟩))
  cases hasks with
  | runtime | imported => cases hneeds
  | samePackage hsame =>
      refine .samePackage (hpackage ▸ hsame) fun other hother hname hmem => himport ?_
      have hown := package_eq_of_imported hw hneeds hother (hname.trans htop.symm) hmem
      rwa [← QualifiedName.importPath_eq (hown.trans (hpackage ▸ hsame).symm) hname]
  | defaultImported hnot hdefault =>
      refine .defaultImported (QualifiedName.isDefaultImported_congr hpackage ▸ hdefault)
        fun other hother hname => ?_
      have hforeign : other.package ≠ b.package := by
        obtain ⟨ground', hasks', hc⟩ := exists_mem_contenders hother
        have hrank := rank_le_of_not_precedes (hw.least _ hc (hname.trans htop.symm))
        intro hown
        cases hasks' with
        | defaultImported hpackage' => exact hpackage' hown
        | runtime | imported | samePackage => simp [Contender.ofName, Ground.rank] at hrank
      exact ⟨fun hmem => hforeign
        (package_eq_of_imported hw hneeds hother (hname.trans htop.symm) hmem), hforeign⟩

/-- Why a path is imported. -/
inductive Needs (b : Blueprint) (functions : List QualifiedName) (path : String) : Prop where
  | runtimeClass (h : ∃ name ∈ runtimeClasses, name.importPath = path)
  | runtimeFunction (h : path = runtimeFunction.importPath)
  | function (h : ∃ f ∈ functions, f.importPath = path ∧ f.package ≠ b.package ∧
      ¬ f.isDefaultImported)
  | mentioned (h : ∃ name ∈ b.mentionedClasses, name.importPath = path ∧
      (resolve b functions).policy.writeName name = name.simple ∧ name.package ≠ b.package ∧
      ¬ name.isDefaultImported)

theorem package_ne_empty_of_mem (h : name ∈ b.mentionedClasses) : name.package ≠ "" := by
  simp only [mentionedClasses, Ty.classNames, List.mem_flatMap, List.mem_filterMap] at h
  obtain ⟨-, -, node, -, hname⟩ := h
  exact node.package_ne_empty_of_className? hname

theorem needs_of_mem_imports {path : String} (h : path ∈ (resolve b functions).imports) :
    Needs b functions path := by
  rw [mem_imports] at h
  obtain ⟨w, hw, hneeds, rfl⟩ | hpath | ⟨f, hf, hground, hpath⟩ := h
  · obtain ⟨name, hknown, ground, hasks, rfl⟩ := exists_of_mem_contenders hw.mem
    cases hasks with
    | samePackage | defaultImported => cases hneeds
    | runtime h => exact .runtimeClass ⟨name, h, rfl⟩
    | imported h hpackage hdefault =>
        have hshort : (resolve b functions).policy.writeName name = name.simple :=
          (writeName_eq_simple_iff_wins hknown (package_ne_empty_of_mem h)).2 ⟨_, hw, rfl⟩
        exact .mentioned ⟨name, h, rfl, hshort, hpackage, hdefault⟩
  · exact .runtimeFunction hpath
  · exact .function ⟨f, hf, hpath, hground⟩

/-- Import resolution is sound and minimal. A known class that is written short is found under its short
    name, all others are written in full; two classes never share a short name; and every import is
    needed. -/
theorem resolve_sound (b : Blueprint) (functions : List QualifiedName) :
    (∀ name ∈ b.knownClasses, name.package ≠ "" →
      ((resolve b functions).policy.writeName name = name.simple ∧
          b.Finds (resolve b functions).imports name) ∨
        ((resolve b functions).policy.writeName name = name.full ∧ name.full ≠ name.simple)) ∧
    (∀ name ∈ b.knownClasses, ∀ other ∈ b.knownClasses, name.package ≠ "" → other.package ≠ "" →
      name.topLevel = other.topLevel → name.importPath ≠ other.importPath →
      ¬ ((resolve b functions).policy.writeName name = name.simple ∧
        (resolve b functions).policy.writeName other = other.simple)) ∧
    ∀ path ∈ (resolve b functions).imports, Needs b functions path := by
  refine ⟨fun name hname hpackage => ?_, ?_, fun path => needs_of_mem_imports⟩
  · obtain ⟨hshort, -⟩ | ⟨hfull, -⟩ := writeName_cases (resolve b functions) hpackage
    · obtain ⟨w, hw, hpath⟩ := (writeName_eq_simple_iff_wins hname hpackage).1 hshort
      exact .inl ⟨hshort, finds_of_wins hw hpath⟩
    · exact .inr ⟨hfull, QualifiedName.full_ne_simple hpackage⟩
  · rintro name hname other hother hpackage hpackage' htop hne ⟨hshort, hshort'⟩
    exact hne (importPath_eq_of_short hname hother hpackage hpackage' htop hshort hshort')

/-- One class named `Result` is imported, and the one that every file sees is written in full. -/
theorem resolve_sound_result :
    let property (name : String) (type : QualifiedName) : Blueprint.Property :=
      ⟨name, .named type, false, false, .abstract⟩
    let b : Blueprint := ⟨"app.Board", .interface, "app", "Board", [], [],
      [property "last" ⟨"com.other", "Result"⟩, property "first" ⟨"kotlin", "Result"⟩,
        property "cells" ⟨"app", "Board.Cell"⟩], .absent⟩
    let set := resolve b [Factory.flowImport]
    set.policy.writeName ⟨"com.other", "Result"⟩ = "Result" ∧
      b.Finds set.imports ⟨"com.other", "Result"⟩ ∧
      set.policy.writeName ⟨"kotlin", "Result"⟩ ≠ "Result" ∧
      b.Finds set.imports ⟨"app", "Board.Cell"⟩ ∧ "kotlinx.coroutines.flow.emptyFlow" ∈ set.imports ∧
      Needs b [Factory.flowImport] "kotlinx.coroutines.flow.emptyFlow" := by
  intro property b set
  obtain ⟨hwrite, hunique, hneeds⟩ := resolve_sound b [Factory.flowImport]
  have hshort : set.policy.writeName ⟨"com.other", "Result"⟩ = "Result" := by decide
  have hcell : set.policy.writeName ⟨"app", "Board.Cell"⟩ = "Board.Cell" := by decide
  refine ⟨hshort, ?_, fun hother => ?_, ?_, by decide, hneeds _ (by decide)⟩
  · obtain ⟨-, h⟩ | ⟨h, -⟩ := hwrite ⟨"com.other", "Result"⟩ (by decide) (by decide)
    · exact h
    · exact absurd (hshort.symm.trans h) (by decide)
  · exact hunique ⟨"com.other", "Result"⟩ (by decide) ⟨"kotlin", "Result"⟩ (by decide) (by decide)
      (by decide) (by decide) (by decide) ⟨hshort, hother⟩
  · obtain ⟨-, h⟩ | ⟨h, -⟩ := hwrite ⟨"app", "Board.Cell"⟩ (by decide) (by decide)
    · exact h
    · exact absurd (hcell.symm.trans h) (by decide)

end ImportSet

end KotlinFakes
