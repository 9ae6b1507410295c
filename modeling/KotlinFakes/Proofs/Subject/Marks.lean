import KotlinFakes.Proofs.Fake.Storage
import KotlinFakes.Proofs.Ty.Composition

/-!
# Marks in analysed subjects

No type that is made on the way from a subject to its fake has a nullability mark on another one: not the types
of the blueprint, not the types of arrays and behaviors that are built from them, and not what is stored of
those when type parameters are erased.
-/

namespace KotlinFakes

namespace Ty

mutual
theorem isMarkedOnce_of_mem_nodes : ∀ {t s : Ty}, t.isMarkedOnce → s ∈ t.nodes → s.isMarkedOnce
  | .primitive _, _, h, hs | .param _, _, h, hs | .named _, _, h, hs => by
      simp only [nodes, List.mem_singleton] at hs
      rwa [hs]
  | .nullable inner, _, h, hs => by
      rw [nodes, List.mem_cons] at hs
      obtain rfl | hs := hs
      · exact h
      · rw [isMarkedOnce, Bool.and_eq_true] at h
        exact isMarkedOnce_of_mem_nodes h.2 hs
  | .apply _ args, _, h, hs => by
      rw [nodes, List.mem_cons] at hs
      obtain rfl | hs := hs
      · exact h
      · rw [isMarkedOnce] at h
        exact isMarkedOnce_of_mem_nodesAll h hs
  | .function params _ result, _, h, hs => by
      rw [nodes, List.mem_cons, List.mem_append] at hs
      obtain rfl | hs := hs
      · exact h
      · rw [isMarkedOnce, Bool.and_eq_true] at h
        exact hs.elim (isMarkedOnce_of_mem_nodesAll h.1) (isMarkedOnce_of_mem_nodes h.2)
theorem isMarkedOnce_of_mem_nodesAll : ∀ {ts : List Ty} {s : Ty}, allMarkedOnce ts → s ∈ nodesAll ts →
    s.isMarkedOnce
  | [], _, _, hs => by
      rw [nodesAll] at hs
      cases hs
  | _ :: _, _, h, hs => by
      rw [nodesAll, List.mem_append] at hs
      rw [allMarkedOnce, Bool.and_eq_true] at h
      exact hs.elim (isMarkedOnce_of_mem_nodes h.1) (isMarkedOnce_of_mem_nodesAll h.2)
end

theorem nullable_nullable_not_mem_nodes {t : Ty} (h : t.isMarkedOnce) (inner : Ty) :
    .nullable (.nullable inner) ∉ t.nodes := fun hmem => by
  have hdoubled := isMarkedOnce_of_mem_nodes h hmem
  rw [isMarkedOnce] at hdoubled
  cases hdoubled

theorem allMarkedOnce_iff {ts : List Ty} : allMarkedOnce ts ↔ ∀ t ∈ ts, t.isMarkedOnce := by
  induction ts with
  | nil => simp [allMarkedOnce]
  | cons t ts ih => rw [allMarkedOnce, Bool.and_eq_true, ih, List.forall_mem_cons]

end Ty

namespace Blueprint

/-- The types that are built from a function: what its parameters hold and what its behavior is. -/
def Function.builtTypes (f : Function) : List Ty := f.signatureType :: f.valueTypes

/-- The types that are built from a property: what its behaviors are. -/
def Property.builtTypes (p : Property) : List Ty := [p.getterType, p.setterType]

/-- The types of a blueprint and those that are built from them. -/
def allTypes (b : Blueprint) : List Ty :=
  b.mentionedTypes ++ b.functions.flatMap Function.builtTypes ++ b.properties.flatMap Property.builtTypes

theorem Function.isMarkedOnce_builtTypes {f : Function} (h : f.IsMarkedOnce) :
    ∀ t ∈ f.builtTypes, t.isMarkedOnce := by
  have hvalues : ∀ t ∈ f.valueTypes, t.isMarkedOnce :=
    List.forall_mem_map.2 fun p hp => Parameter.isMarkedOnce_valueType (h.1 p hp)
  refine List.forall_mem_cons.2 ⟨?_, hvalues⟩
  rw [signatureType, Ty.isMarkedOnce, Ty.allMarkedOnce_iff.2 hvalues, h.2]
  rfl

theorem Property.isMarkedOnce_builtTypes {p : Property} (h : p.type.isMarkedOnce) :
    ∀ t ∈ p.builtTypes, t.isMarkedOnce := by
  simp [builtTypes, getterType, setterType, Ty.isMarkedOnce, Ty.allMarkedOnce, Ty.unit, h]

end Blueprint

namespace Subject

theorem isMarkedOnce_bounds (p : TypeParam) : ∀ t ∈ p.lower.bounds, t.isMarkedOnce := by
  refine List.forall_mem_map.2 fun r _ => ?_
  unfold TypeParam.boundTy
  split
  · rfl
  · exact TypeRef.isMarkedOnce_toTy r

theorem isMarkedOnce_lower (inherited : Inherited) (f : Function) :
    ∀ t ∈ (f.lower inherited).mentionedTypes, t.isMarkedOnce := by
  simp only [Blueprint.Function.mentionedTypes, Function.lower, List.forall_mem_append,
    List.forall_mem_flatMap, List.forall_mem_map]
  refine ⟨⟨fun p _ => isMarkedOnce_bounds p, fun p _ => TypeRef.isMarkedOnce_toTy p.type⟩, ?_⟩
  exact List.forall_mem_singleton.2 (TypeRef.isMarkedOnce_toTy f.result)

theorem isMarkedOnce_lower? {inherited : Inherited} {p : Property} {lowered : Blueprint.Property}
    (h : p.lower? inherited = some lowered) : lowered.type.isMarkedOnce := by
  obtain ⟨r, -, rfl⟩ := Option.map_eq_some_iff.1 h
  exact TypeRef.isMarkedOnce_toTy r

theorem isMarkedOnce_allTypes {s : Subject} {analysis : Analysis} (h : s.analyze = .ok analysis) :
    ∀ t ∈ analysis.blueprint.allTypes, t.isMarkedOnce := by
  have hfunctions := fun f hf => isMarkedOnce_of_analyze h (f := f) hf
  obtain ⟨supertype, properties, -, hproperties, hb⟩ := blueprint_of_analyze h
  have hproperty : ∀ p ∈ properties, p.type.isMarkedOnce := fun p hp => by
    obtain ⟨inherited, q, -, hlower⟩ := exists_of_mem_lowerProperties hproperties hp
    exact isMarkedOnce_lower? hlower
  rw [hb] at hfunctions ⊢
  simp only [Blueprint.allTypes, Blueprint.mentionedTypes, List.forall_mem_append,
    List.forall_mem_flatMap]
  refine ⟨⟨⟨⟨?_, ?_⟩, ?_⟩, ?_⟩, ?_⟩
  · exact List.forall_mem_map.2 fun p _ => isMarkedOnce_bounds p
  · exact List.forall_mem_map.2 fun entry _ => isMarkedOnce_lower entry.1 entry.2
  · exact List.forall_mem_map.2 hproperty
  · exact fun f hf => Blueprint.Function.isMarkedOnce_builtTypes (hfunctions f hf)
  · exact fun p hp => Blueprint.Property.isMarkedOnce_builtTypes (hproperty p hp)

/-- No type of an analysed subject, no type that is built from those, and nothing that is stored of them under
    any erasure has a nullable type directly inside a nullable one, at any depth. -/
theorem nullable_nullable_not_mem {s : Subject} {analysis : Analysis} (h : s.analyze = .ok analysis)
    {t : Ty} (ht : t ∈ analysis.blueprint.allTypes) (inner : Ty) :
    .nullable (.nullable inner) ∉ t.nodes ∧
      ∀ names, .nullable (.nullable inner) ∉ (t.erase names).nodes := by
  have hmarked := isMarkedOnce_allTypes h t ht
  exact ⟨Ty.nullable_nullable_not_mem_nodes hmarked inner, fun names =>
    Ty.nullable_nullable_not_mem_nodes (Ty.isMarkedOnce_erase hmarked names) inner⟩

/-- An interface with a nullable `vararg` of a function's own type parameter, and a nullable property. -/
def tray : Subject :=
  ⟨"app", "Tray", .interface, [⟨"T", [], false⟩],
    [.function ⟨"fill", [⟨"U", [.ofClass "kotlin.Any" [] false, .unresolved "Base"], false⟩],
      [⟨"items", .ofParam "U" true, true, false⟩], .ofParam "U" true, false, false, .abstract, .declared⟩,
    .property ⟨"top", some (.ofParam "T" true), none, true, .abstract, .declared⟩],
    ["Fake"], 0, none⟩

/-- Where the nullable parameter is erased, `Any?` is put under a mark, and one mark is left. -/
theorem nullable_nullable_not_mem_tray : ∃ analysis, tray.analyze = .ok analysis ∧
    .function [(Ty.nullable (.param "U")).varargArray] false (.nullable (.param "U")) ∈
      analysis.blueprint.allTypes ∧
    (Ty.function [(Ty.nullable (.param "U")).varargArray] false (.nullable (.param "U"))).erase ["U"] =
      .function [Ty.top.varargArray] false .top ∧
    ∀ inner, .nullable (.nullable inner) ∉
      ((Ty.function [(Ty.nullable (.param "U")).varargArray] false (.nullable (.param "U"))).erase
        ["U"]).nodes := by
  have hanalysis : tray.analyze = .ok _ := rfl
  refine ⟨_, hanalysis, ?mem, by decide, fun inner =>
    (nullable_nullable_not_mem hanalysis ?mem inner).2 _⟩
  decide

end Subject

end KotlinFakes
