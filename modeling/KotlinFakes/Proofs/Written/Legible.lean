import KotlinFakes.Blueprint.Basic
import KotlinFakes.Proofs.Ty.Erasure
import KotlinFakes.Proofs.Written.Reading

/-!
# Legible types

Which types are legible, and that what a file writes is legible if the types of the blueprint are.
Two legible types are written alike if and only if their outlines are alike up to how their names are
written.
-/

namespace KotlinFakes

open Identifier Text

/-! ## Names of legible types -/

namespace Head

/-- Whether a name can stand in a legible type. -/
def IsLegible : Head → Prop
  | .primitive _ => True
  | .param name => isValid name
  | .cls name => name = .unpackaged "*" ∨ name.IsCut

theorem isWord_of_isDotted {policy : NamePolicy} {head : Head} (h : isDotted (head.text policy)) :
    Outline.IsWord policy head := by
  refine ⟨fun hempty => ?_, fun c hc => ?_⟩
  · obtain ⟨c, rest, hc, -⟩ := exists_cons_of_isDotted h
    rw [hempty] at hc
    cases hc
  · rw [Outline.inName, inDotted_of_isDotted h hc, Bool.true_or]

theorem IsLegible.isWord {head : Head} (policy : NamePolicy) (h : head.IsLegible) :
    Outline.IsWord policy head := by
  cases head with
  | primitive p =>
      have hname (p : Primitive) : isDotted p.name := by cases p <;> decide
      exact isWord_of_isDotted (hname p)
  | param name =>
      have hname : isValid name := h
      have hdotted : isDotted ((param name).text policy) := by
        rw [isDotted, text, segments, pieces_of_not_mem (not_mem_of_isValid hname (by decide))]
        simpa using hname
      exact isWord_of_isDotted hdotted
  | cls name =>
      obtain rfl | hcut := h
      · have hstar : (cls (.unpackaged "*")).text policy = "*" := by
          simp [text, NamePolicy.writeName, NamePolicy.isQualified, QualifiedName.unpackaged]
        rw [Outline.IsWord, hstar]
        exact ⟨by decide, List.all_eq_true.1 (by decide)⟩
      · apply isWord_of_isDotted
        change isDotted (policy.writeName name)
        unfold NamePolicy.writeName
        split
        · exact hcut.isDotted_full
        · exact hcut.isDotted_simple

end Head

namespace Ty

theorem Legible.each_outline {t : Ty} (h : t.Legible) : t.outline.Each Head.IsLegible := by
  have hall {ts : List Ty} (h : ∀ t ∈ ts, t.outline.Each Head.IsLegible) :
      ∀ s ∈ ts.map outline, s.Each Head.IsLegible := by simpa using h
  induction h with
  | primitive p => exact .named false trivial (by simp)
  | param hname => exact .named false hname (by simp)
  | star => exact .named false (.inl rfl) (by simp)
  | named hname => exact .named false (.inr hname) (by simp)
  | apply hname hout _ _ ih =>
      rw [outline_apply hout]
      exact .named false (.inr hname) (hall ih)
  | out _ ih =>
      rw [outline_out]
      exact .out ih
  | function isSuspend _ _ ihparams ihresult =>
      rw [outline, outlines_eq_map]
      exact .function isSuspend false (hall ihparams) ihresult
  | nullable _ _ ih => exact ih.orNull

theorem Legible.write_eq_iff {s t : Ty} (policy : NamePolicy) (hs : s.Legible) (ht : t.Legible) :
    policy.write s = policy.write t ↔
      Outline.Alike (Outline.SameText policy) s.outline t.outline := by
  rw [hs.write_eq, ht.write_eq]
  constructor
  · intro h
    have hclean {t : Ty} (ht : t.Legible) : Outline.Clean policy t.outline :=
      ht.each_outline.imp fun _ => Head.IsLegible.isWord policy
    exact (Outline.readable (hclean hs) (hclean ht) (stops_nil _) (stops_nil _)
      (congrArg (fun text : String => text.toList ++ []) h)).1
  · exact Outline.text_eq_of_alike (fun _ _ h => h) _ _

/-! ## What is legible -/

theorem takesMark_apply {name : QualifiedName} {args : List Ty} :
    (Ty.apply name args).takesMark ↔ name ≠ outName ∨ args = [] := by
  by_cases h : name = outName <;> cases args <;> simp [takesMark, isNullable, projected?, h]

theorem nodesAll_eq_flatMap (ts : List Ty) : nodesAll ts = ts.flatMap nodes := by
  induction ts with
  | nil => rw [nodesAll, List.flatMap_nil]
  | cons t ts ih => rw [nodesAll, ih, List.flatMap_cons]

theorem legible_top : top.Legible := .nullable (.primitive _) rfl

theorem Legible.orNull {t : Ty} (h : t.Legible) (hmark : t.isNullable ∨ t.takesMark) :
    t.orNull.Legible := by
  cases t with
  | nullable => exact h
  | primitive | apply | function | param | named =>
      obtain hnull | hmark := hmark
      · cases hnull
      · exact .nullable h hmark

theorem Legible.substitute {replace : String → Option Ty} {t : Ty}
    (hreplace : ∀ name u, replace name = some u → u = top) (h : t.Legible) :
    (t.substitute replace).Legible := by
  induction h with
  | primitive p => exact .primitive p
  | star => exact .star
  | named hname => exact .named hname
  | @param name hname =>
      rw [Ty.substitute]
      cases hu : replace name with
      | none => exact .param hname
      | some u => exact hreplace name u hu ▸ legible_top
  | apply hname hout hne _ ih =>
      rw [Ty.substitute, substituteAll_eq_map]
      exact .apply hname hout (by simpa using hne) (by simpa using ih)
  | out _ ih => exact .out ih
  | function isSuspend _ _ ihparams ihresult =>
      rw [Ty.substitute, substituteAll_eq_map]
      exact .function isSuspend (by simpa using ihparams) ihresult
  | @nullable inner _ hmark ih =>
      rw [Ty.substitute]
      refine ih.orNull ?_
      cases inner with
      | nullable => cases hmark
      | primitive | named => exact .inr hmark
      | function => exact .inr rfl
      | apply name args =>
          rw [takesMark_apply] at hmark
          rw [Ty.substitute, substituteAll_eq_map]
          exact .inr (takesMark_apply.2 (hmark.imp_right fun h => by simp [h]))
      | param name =>
          rw [Ty.substitute]
          cases hu : replace name with
          | none => exact .inr rfl
          | some u =>
              rw [hreplace name u hu]
              exact .inl rfl

theorem Legible.erase {t : Ty} (h : t.Legible) (names : List String) : (t.erase names).Legible := by
  unfold Ty.erase
  split
  · exact h
  · refine h.substitute fun name u hu => ?_
    split at hu
    · exact (Option.some.inj hu).symm
    · cases hu

theorem Legible.varargArray {t : Ty} (h : t.Legible) : t.varargArray.Legible := by
  have hgeneral : (Ty.apply ⟨"kotlin", "Array"⟩ [t.out]).Legible :=
    .apply ⟨"kotlin.Array", by decide, by decide⟩ (by decide) (by simp) (by simpa using .out h)
  cases t with
  | primitive p =>
      have hname {simple : String} (h : p.arrayClass? = some simple) :
          QualifiedName.IsCut ⟨"kotlin", simple⟩ := by
        refine ⟨"kotlin." ++ simple, ?_⟩
        revert simple
        cases p <;> simp [Primitive.arrayClass?] <;> decide
      unfold Ty.varargArray
      dsimp only
      split
      · next simple hsimple => exact .named (hname hsimple)
      · exact hgeneral
  | nullable | apply | function | param | named => exact hgeneral

theorem Legible.of_mem_nodes {t : Ty} (h : t.Legible) {s : Ty} (hs : s ∈ t.nodes) : s.Legible := by
  induction h generalizing s with
  | primitive p =>
      obtain rfl : s = _ := by simpa [nodes] using hs
      exact .primitive p
  | param hname =>
      obtain rfl : s = _ := by simpa [nodes] using hs
      exact .param hname
  | star =>
      obtain rfl : s = .star := by simpa [nodes, Ty.star] using hs
      exact .star
  | named hname =>
      obtain rfl : s = _ := by simpa [nodes] using hs
      exact .named hname
  | apply hname hout hne hargs ih =>
      rw [nodes, nodesAll_eq_flatMap, List.mem_cons, List.mem_flatMap] at hs
      obtain rfl | ⟨t, ht, hs⟩ := hs
      · exact .apply hname hout hne hargs
      · exact ih t ht hs
  | out hinner ih =>
      rw [Ty.out, nodes, nodesAll, nodesAll, List.append_nil, List.mem_cons] at hs
      obtain rfl | hs := hs
      · exact .out hinner
      · exact ih hs
  | function isSuspend hparams hresult ihparams ihresult =>
      rw [nodes, nodesAll_eq_flatMap, List.mem_cons, List.mem_append, List.mem_flatMap] at hs
      obtain rfl | ⟨t, ht, hs⟩ | hs := hs
      · exact .function isSuspend hparams hresult
      · exact ihparams t ht hs
      · exact ihresult hs
  | nullable hinner hmark ih =>
      rw [nodes, List.mem_cons] at hs
      obtain rfl | hs := hs
      · exact .nullable hinner hmark
      · exact ih hs

end Ty

namespace Blueprint

/-! ## What a file writes -/

/-- The types that a file writes: those that the blueprint mentions, the types of the behaviors as they
    are declared and as they are stored, and the types that every file writes. -/
def writtenTypes (b : Blueprint) : List Ty :=
  b.mentionedTypes ++
    (b.functions.flatMap fun f => [f.signatureType, f.signatureType.erase (b.erasedNames f)]) ++
    (b.properties.flatMap fun p => [p.getterType, p.setterType]) ++ [.unit, .primitive .int, .top]

/-- The types that a file writes and all types inside them. -/
def writtenParts (b : Blueprint) : List Ty := b.writtenTypes.flatMap Ty.nodes

/-- Whether all types of a blueprint are legible. -/
def IsLegible (b : Blueprint) : Prop := ∀ t ∈ b.mentionedTypes, t.Legible

theorem mem_mentionedTypes_of_function {b : Blueprint} {f : Function} (hf : f ∈ b.functions) {t : Ty}
    (ht : t ∈ f.mentionedTypes) : t ∈ b.mentionedTypes := by
  rw [mentionedTypes, List.mem_append, List.mem_append]
  exact .inl (.inr (List.mem_flatMap.2 ⟨f, hf, ht⟩))

variable {b : Blueprint}

theorem IsLegible.signatureType (h : b.IsLegible) {f : Function} (hf : f ∈ b.functions) :
    f.signatureType.Legible := by
  have hmentioned {t : Ty} (ht : t ∈ f.mentionedTypes) : t.Legible :=
    h t (mem_mentionedTypes_of_function hf ht)
  refine .function _ (fun t ht => ?_) (hmentioned (by simp [Function.mentionedTypes]))
  obtain ⟨p, hp, rfl⟩ := List.mem_map.1 ht
  have hparameter : p.type.Legible :=
    hmentioned (List.mem_append_left _ (List.mem_append_right _ (List.mem_map_of_mem hp)))
  unfold Parameter.valueType
  split
  · exact hparameter.varargArray
  · exact hparameter

theorem IsLegible.property (h : b.IsLegible) {p : Property} (hp : p ∈ b.properties) :
    p.type.Legible := by
  refine h _ ?_
  rw [mentionedTypes]
  exact List.mem_append_right _ (List.mem_map_of_mem hp)

/-- Whatever a file writes is legible. -/
theorem IsLegible.of_mem_writtenParts (h : b.IsLegible) {t : Ty} (ht : t ∈ b.writtenParts) :
    t.Legible := by
  obtain ⟨whole, hwhole, hpart⟩ := List.mem_flatMap.1 ht
  refine Ty.Legible.of_mem_nodes ?_ hpart
  simp only [writtenTypes, List.mem_append, List.mem_flatMap, List.mem_cons, List.not_mem_nil,
    or_false] at hwhole
  obtain ((hmentioned | ⟨f, hf, rfl | rfl⟩) | ⟨p, hp, rfl | rfl⟩) | rfl | rfl | rfl := hwhole
  · exact h _ hmentioned
  · exact h.signatureType hf
  · exact (h.signatureType hf).erase _
  · exact .function _ (by simp) (h.property hp)
  · exact .function _ (by simpa using h.property hp) (.primitive _)
  · exact .primitive _
  · exact .primitive _
  · exact Ty.legible_top

end Blueprint

end KotlinFakes
