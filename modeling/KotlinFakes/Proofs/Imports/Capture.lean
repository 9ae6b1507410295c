import KotlinFakes.Fake.File
import KotlinFakes.Proofs.Imports.Resolution
import KotlinFakes.Proofs.Written.Legible

/-!
# Captured names

Import resolution keeps the classes apart that a blueprint mentions, but it knows nothing of the other
names in a file: primitives, type parameters, and arrays that stand for a `vararg`. Two types of a file
are written alike just where one of these has the text of another name.
-/

namespace KotlinFakes

namespace Blueprint

/-- Whether import resolution takes account of a name. -/
def Knows (b : Blueprint) : Head → Prop
  | .cls name => name ∈ b.knownClasses ∧ name.package ≠ ""
  | .primitive _ | .param _ => False

/-- Whether two names of a file are the same, or written alike because import resolution does not know
    both. -/
def Confuses (b : Blueprint) (policy : NamePolicy) (head head' : Head) : Prop :=
  head = head' ∨ (head.text policy = head'.text policy ∧ ¬ (b.Knows head ∧ b.Knows head'))

end Blueprint

namespace ImportSet

variable {b : Blueprint} {functions : List QualifiedName} {name other : QualifiedName}

theorem eq_of_writeName_eq (h : name ∈ b.knownClasses) (ho : other ∈ b.knownClasses)
    (hpackage : name.package ≠ "") (hpackage' : other.package ≠ "") (hcut : name.IsCut)
    (hcut' : other.IsCut)
    (heq : (resolve b functions).policy.writeName name =
      (resolve b functions).policy.writeName other) : name = other := by
  obtain ⟨hwrite, -⟩ | ⟨hwrite, -⟩ := writeName_cases (resolve b functions) hpackage <;>
    obtain ⟨hwrite', -⟩ | ⟨hwrite', -⟩ := writeName_cases (resolve b functions) hpackage' <;>
      rw [hwrite, hwrite'] at heq
  · have htop : name.topLevel = other.topLevel := by
      rw [QualifiedName.topLevel, QualifiedName.topLevel, heq]
    have hpath := importPath_eq_of_short h ho hpackage hpackage' htop hwrite hwrite'
    have hsame := (QualifiedName.importPath_inj hpath).1
    obtain ⟨package, simple⟩ := name
    obtain ⟨package', simple'⟩ := other
    exact QualifiedName.mk.injEq .. ▸ ⟨hsame, heq⟩
  · exact absurd heq (hcut.simple_ne_full hcut' hpackage')
  · exact absurd heq.symm (hcut'.simple_ne_full hcut hpackage)
  · exact hcut.eq_of_full_eq hcut' heq

theorem confuses_iff {head head' : Head} (h : head.IsLegible) (h' : head'.IsLegible) :
    b.Confuses (resolve b functions).policy head head' ↔
      head.text (resolve b functions).policy = head'.text (resolve b functions).policy := by
  constructor
  · rintro (rfl | ⟨htext, -⟩)
    · rfl
    · exact htext
  · intro htext
    by_cases hknows : b.Knows head ∧ b.Knows head'
    · cases head with
      | primitive | param => exact hknows.1.elim
      | cls name =>
          cases head' with
          | primitive | param => exact hknows.2.elim
          | cls other =>
              obtain ⟨⟨hknown, hpackage⟩, hknown', hpackage'⟩ := hknows
              -- The star has no package, so both are classes proper.
              have hcut {name : QualifiedName} (h : (Head.cls name).IsLegible)
                  (hpackage : name.package ≠ "") : name.IsCut :=
                h.resolve_left fun hstar => hpackage (congrArg QualifiedName.package hstar)
              exact .inl (congrArg Head.cls (eq_of_writeName_eq hknown hknown' hpackage hpackage'
                (hcut h hpackage) (hcut h' hpackage') htext))
    · exact .inr ⟨htext, hknows⟩

/-- Two types in the file of a blueprint are written alike if and only if they have the same outline up to
    names that are captured: names with the same text of which import resolution does not know both. If
    they have the same outline with the same names, they are the same type. -/
theorem write_eq_iff_confuses (hb : b.IsLegible) {s t : Ty} (hs : s ∈ b.writtenParts)
    (ht : t ∈ b.writtenParts) :
    ((resolve b functions).policy.write s = (resolve b functions).policy.write t ↔
      Outline.Alike (b.Confuses (resolve b functions).policy) s.outline t.outline) ∧
    (Outline.Alike (· = ·) s.outline t.outline → s = t) := by
  have hs := hb.of_mem_writtenParts hs
  have ht := hb.of_mem_writtenParts ht
  refine ⟨?_, hs.eq_of_alike ht⟩
  rw [hs.write_eq_iff _ ht]
  constructor
  · exact Outline.Alike.imp (fun _ _ h h' => (confuses_iff h h').2) hs.each_outline ht.each_outline
  · exact Outline.Alike.imp (fun _ _ h h' => (confuses_iff h h').1) hs.each_outline ht.each_outline

/-- The blueprint of an interface with a property of a class `Int` and one of the primitive. -/
def boxWithInts : Blueprint :=
  ⟨"app.Box", .interface, "app", "Box", [], [],
    [⟨"cells", .apply ⟨"kotlin.collections", "List"⟩ [.named ⟨"com.other", "Int"⟩], false, false,
        .abstract⟩,
      ⟨"counts", .apply ⟨"kotlin.collections", "List"⟩ [.primitive .int], false, false, .abstract⟩],
    .absent⟩

theorem isLegible_boxWithInts : boxWithInts.IsLegible := by
  have hlist : QualifiedName.IsCut ⟨"kotlin.collections", "List"⟩ :=
    ⟨"kotlin.collections.List", by decide, by decide⟩
  have hint : QualifiedName.IsCut ⟨"com.other", "Int"⟩ := ⟨"com.other.Int", by decide, by decide⟩
  intro t ht
  simp only [boxWithInts, Blueprint.mentionedTypes, List.flatMap_nil, List.nil_append, List.map_cons,
    List.map_nil, List.mem_cons, List.not_mem_nil, or_false] at ht
  obtain rfl | rfl := ht
  · exact .apply hlist (by decide) (by simp) (by simpa using .named hint)
  · exact .apply hlist (by decide) (by simp) (by simpa using .primitive _)

/-- The lists of the two are written alike, and only their elements tell them apart. -/
theorem write_eq_iff_confuses_int :
    let policy := (resolve boxWithInts []).policy
    let cells : Ty := .apply ⟨"kotlin.collections", "List"⟩ [.named ⟨"com.other", "Int"⟩]
    let counts : Ty := .apply ⟨"kotlin.collections", "List"⟩ [.primitive .int]
    policy.write cells = "List<Int>" ∧
      Outline.Alike (boxWithInts.Confuses policy) cells.outline counts.outline := by
  intro policy cells counts
  have hsame : policy.write cells = policy.write counts := by decide
  exact ⟨by decide, (write_eq_iff_confuses isLegible_boxWithInts (by decide) (by decide)).1.1 hsame⟩

/-- A class can be written like a primitive. -/
theorem not_write_inj : ∃ (options : FileOptions) (b : Blueprint) (file : FakeFile),
    FakeFile.generate options b = .ok file ∧ b.package ≠ "" ∧ b.IsLegible ∧
      ¬ ∀ s ∈ b.writtenParts, ∀ t ∈ b.writtenParts,
        file.policy.write s = file.policy.write t → s = t := by
  refine ⟨⟨true⟩, boxWithInts, _, rfl, by decide, isLegible_boxWithInts, fun h => ?_⟩
  have heq := h (.named ⟨"com.other", "Int"⟩) (by decide) (.primitive .int) (by decide) (by decide)
  cases heq

end ImportSet

end KotlinFakes
