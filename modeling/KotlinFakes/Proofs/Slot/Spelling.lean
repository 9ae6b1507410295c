import KotlinFakes.Proofs.Slot.Requests
import KotlinFakes.Proofs.Subject.Coverage
import KotlinFakes.Proofs.Text.Capitals
import KotlinFakes.Proofs.Ty.Erasure

/-!
# How derived names are spelled

The declared names of a blueprint with a file are names, but those derived from them are made of more:
of capital letters, and for overloads of words for the types of parameters. They are names as well unless
a declared name, or a word, begins with a letter whose capital has marks of its own, or a word is no part
of a name. The words for well-named types always are.
-/

namespace KotlinFakes

open Identifier

/-! ## The names of one slot -/

namespace Slot

/-- Whether all names that are derived from a base are names. -/
structure IsSpelled (slot : Slot) : Prop where
  base : isValid slot.base
  behavior : isValid slot.behavior
  counter : isValid slot.counter
  counterState : isValid slot.counterState
  configure : isValid slot.configure

theorem isValid_configure_iff {slot : Slot} (h : isValid slot.base) :
    isValid slot.configure ↔ ¬ beginsMarked slot.base := by
  rw [configure, isValid_append (by decide), fits_capitalized]
  exact and_iff_right (fits_of_isValid h)

theorem isSpelled_iff {slot : Slot} :
    slot.IsSpelled ↔ isValid slot.base ∧ ¬ beginsMarked slot.base := by
  constructor
  · intro h
    exact ⟨h.base, (isValid_configure_iff h.base).1 h.configure⟩
  · rintro ⟨hbase, hmarked⟩
    have hfits := fits_of_isValid hbase
    exact
      { base := hbase
        behavior := (isValid_append hbase).2 (by decide)
        counter := (isValid_append hbase).2 (by decide)
        counterState := by
          rw [counterState, String.append_assoc, isValid_append (by decide), fits_append, hfits]
          decide
        configure := (isValid_configure_iff hbase).2 hmarked }

end Slot

/-! ## The names of all slots -/

namespace Claims

theorem fits_suffix (index : Nat) : fits (suffix index) := by
  have hdigit : ∀ n : Fin 10, mayFollow (Char.ofNat (48 + n)) := by decide +kernel
  cases index with
  | zero => rfl
  | succ n =>
      refine List.all_eq_true.2 fun c hc => ?_
      have hc := Nat.isDigit_of_mem_toDigits (b := 10) (by decide) (by decide)
        (Nat.toList_repr (n := n + 2) ▸ hc)
      obtain ⟨digit, rfl⟩ := exists_ofNat_of_isDigit hc
      exact hdigit digit

variable {base : String}

theorem isSpelled_candidate_iff (h : base ≠ "") (index : Nat) :
    (candidate base index).IsSpelled ↔ isValid base ∧ ¬ beginsMarked base := by
  rw [Slot.isSpelled_iff, candidate_eq, beginsMarked_append h]
  refine and_congr_left fun _ => ⟨isValid_of_isValid_append h, fun hvalid => ?_⟩
  exact (isValid_append hvalid).2 (fits_suffix index)

/-- What depends on the requested base only holds of all claimed slots if it holds of all requests. -/
theorem forall_mem_claimAll_iff {P : Slot → Prop} {Q : String → Prop} {claims : Claims}
    {bases : List String} (h : ∀ base ∈ bases, ∀ index, P (candidate base index) ↔ Q base) :
    (∀ slot ∈ claims.claimAll bases, P slot) ↔ ∀ base ∈ bases, Q base := by
  induction bases generalizing claims with
  | nil => simp [claimAll]
  | cons base bases ih =>
      obtain ⟨index, -, hslot, -⟩ := slotFor_spec claims base
      rw [claimAll, List.forall_mem_cons, List.forall_mem_cons, hslot, h base List.mem_cons_self,
        ih fun other hother => h other (List.mem_cons_of_mem _ hother)]

end Claims

/-! ## Words for types -/

theorem QualifiedName.IsCut.fits_short {name : QualifiedName} (h : name.IsCut) : fits name.short := by
  have hsegments := h.isDotted_simple
  have hlast := List.getLast_mem (Text.segments_ne_nil name.simple)
  rw [short, List.getLastD_eq_getLast?, List.getLast?_eq_some_getLast (Text.segments_ne_nil _),
    Option.getD_some]
  exact fits_of_isValid (List.all_eq_true.1 hsegments _ hlast)

namespace Ty

theorem WellNamed.fits_word {t : Ty} (h : t.WellNamed) : fits t.word := by
  induction h with
  | primitive p => cases p <;> decide +kernel
  | nullable _ ih =>
      rw [word]
      exact ih
  | @apply name args hname _ ih =>
      rw [word]
      split
      · cases args with
        | nil => exact hname.fits_short
        | cons t ts => exact ih t List.mem_cons_self
      · exact hname.fits_short
  | function =>
      rw [word]
      decide
  | param hname =>
      rw [word]
      exact fits_of_isValid hname
  | star => decide
  | named hname =>
      rw [word]
      split
      · decide
      · exact hname.fits_short

theorem fits_word_varargArray (t : Ty) : fits t.varargArray.word := by
  obtain ⟨p, simple, -, hclass, heq⟩ | heq := t.varargArray_cases
  · rw [heq]
    cases p <;> cases hclass <;> decide +kernel
  · rw [heq, word, if_neg (by decide)]
    decide

end Ty

/-! ## Requests -/

namespace SlotTable

variable {b : Blueprint} {fs : List Blueprint.Function} {f : Blueprint.Function} {p : Blueprint.Property}

theorem forall_propertyBases_iff (h : isValid p.name) :
    (∀ base ∈ propertyBases p, isValid base ∧ ¬ beginsMarked base) ↔ ¬ beginsMarked p.name := by
  have hsetter : isValid ("set" ++ capitalized p.name) ↔ ¬ beginsMarked p.name := by
    rw [isValid_append (by decide), fits_capitalized]
    exact and_iff_right (fits_of_isValid h)
  have hset : ¬ beginsMarked ("set" ++ capitalized p.name) := by
    rw [beginsMarked_append (by decide)]
    decide
  rw [propertyBases, List.forall_mem_cons]
  constructor
  · intro hbases
    exact hbases.1.2
  · intro hmarked
    refine ⟨⟨h, hmarked⟩, fun base hbase => ?_⟩
    split at hbase
    · rw [List.mem_singleton] at hbase
      subst hbase
      exact ⟨hsetter.2 hmarked, hset⟩
    · cases hbase

theorem requestedBase_iff (h : isValid f.name) :
    (isValid (requestedBase fs f) ∧ ¬ beginsMarked (requestedBase fs f)) ↔
      ¬ beginsMarked f.name ∧
        (isOverloaded fs f → ∀ t ∈ f.valueTypes, fits t.word ∧ ¬ beginsMarked t.word) := by
  unfold requestedBase
  split
  · next hoverloaded =>
      have hwords : fits (String.join (f.valueTypes.map fun t => capitalized t.word)) ↔
          ∀ t ∈ f.valueTypes, fits t.word ∧ ¬ beginsMarked t.word := by
        simp only [fits_join, List.forall_mem_map, fits_capitalized]
      rw [overloadBase, isValid_append h, hwords, beginsMarked_append (isValid_ne_empty h)]
      simp only [hoverloaded, forall_const]
      exact and_comm
  · next hoverloaded =>
      constructor
      · rintro ⟨-, hmarked⟩
        exact ⟨hmarked, fun h => absurd h hoverloaded⟩
      · rintro ⟨hmarked, -⟩
        exact ⟨h, hmarked⟩

theorem forall_requestedBases_iff (h : ∀ name ∈ b.declaredNames, isValid name) :
    (∀ base ∈ requestedBases b, isValid base ∧ ¬ beginsMarked base) ↔
      (∀ p ∈ b.properties, ¬ beginsMarked p.name) ∧
      ∀ f ∈ b.functions, ¬ beginsMarked f.name ∧
        (isOverloaded b.functions f → ∀ t ∈ f.valueTypes, fits t.word ∧ ¬ beginsMarked t.word) := by
  simp only [Blueprint.declaredNames, List.cons_append, List.mem_cons, List.mem_append,
    List.mem_map, List.mem_flatMap] at h
  have hproperty : ∀ p ∈ b.properties, isValid p.name := fun p hp =>
    h _ (.inr (.inl (.inr ⟨p, hp, rfl⟩)))
  have hfunction : ∀ f ∈ b.functions, isValid f.name := fun f hf =>
    h _ (.inr (.inr ⟨f, hf, by simp [Blueprint.Function.declaredNames]⟩))
  rw [requestedBases, List.forall_mem_append, List.forall_mem_flatMap, List.forall_mem_map]
  refine and_congr (forall₂_congr fun p hp => ?_) (forall₂_congr fun f hf => ?_)
  · exact forall_propertyBases_iff (hproperty p hp)
  · exact requestedBase_iff (hfunction f hf)

/-- All names that are derived from the slots of a blueprint with a file are names if and only if no
    property or function begins with a letter whose capital has marks of its own, nor does the word for
    a parameter of an overloaded function, and all these words can stand in names. The word for a
    well-named type can, and so can that for a `vararg` parameter. -/
theorem forall_isSpelled_iff {options : FileOptions} {file : FakeFile}
    (h : FakeFile.generate options b = .ok file) :
    ((∀ slot ∈ (ofBlueprint b).slots, slot.IsSpelled) ↔
      (∀ p ∈ b.properties, ¬ beginsMarked p.name) ∧
      ∀ f ∈ b.functions, ¬ beginsMarked f.name ∧
        (isOverloaded b.functions f → ∀ t ∈ f.valueTypes, fits t.word ∧ ¬ beginsMarked t.word)) ∧
    ∀ f ∈ b.functions, ∀ p ∈ f.parameters,
      p.isVararg ∨ p.type.WellNamed → fits p.valueType.word := by
  have hnames := FakeFile.isValid_of_generate h
  constructor
  · rw [slots_ofBlueprint, ← forall_requestedBases_iff hnames]
    refine Claims.forall_mem_claimAll_iff fun base hbase index => ?_
    refine Claims.isSpelled_candidate_iff ?_ index
    obtain ⟨name, suffix, hname, rfl⟩ := exists_name_of_mem_requestedBases hnames hbase
    intro hempty
    exact isValid_ne_empty hname (String.append_eq_empty_iff.1 hempty).1
  · intro f _ p _ hp
    unfold Blueprint.Parameter.valueType
    split
    · exact p.type.fits_word_varargArray
    · next hvararg => exact (hp.resolve_left hvararg).fits_word

end SlotTable

namespace Subject

open SlotTable

/-- A function that takes one item. -/
def stow (type : TypeRef) : Function := textFunction "stow" [⟨"item", type, false, false⟩]

/-- An interface that takes items of some types, and has variables. -/
def cupboard (types : List TypeRef) (names : List String) : Subject :=
  ⟨"app", "Cupboard", .interface, [],
    types.map (.function ∘ stow) ++ names.map fun name => .property
      { name := name
        getterType := some (.ofClass "kotlin.Int" [] false)
        fieldType := none
        isMutable := true
        modality := .abstract
        origin := .declared },
    ["Fake"], 0, none⟩

/-- An interface for texts and lists, with a variable. -/
def pantry : Subject :=
  cupboard [.ofClass "kotlin.String" [] false,
    .ofClass "kotlin.collections.List" [.ofClass "kotlin.Int" [] false] false] ["room"]

/-- Overloads that take texts and lists have names. -/
theorem forall_isSpelled_iff_pantry : ∃ analysis file, pantry.analyze = .ok analysis ∧
    FakeFile.generate ⟨true⟩ analysis.blueprint = .ok file ∧
    (ofBlueprint analysis.blueprint).slots = [⟨"room"⟩, ⟨"setRoom"⟩, ⟨"stowString"⟩, ⟨"stowList"⟩] ∧
    ∀ slot ∈ (ofBlueprint analysis.blueprint).slots, slot.IsSpelled := by
  refine ⟨_, _, rfl, rfl, by decide +kernel, ?_⟩
  refine (@forall_isSpelled_iff _ ⟨true⟩ _ rfl).1.2 ⟨?_, ?_⟩
  · decide +kernel
  · decide +kernel

/-- A type that was not resolved stands in the base of an overload as it was written, and the capital of a
    first letter can have a mark that no name has. -/
theorem exists_not_isSpelled :
    (∃ analysis file,
      (cupboard [.ofClass "kotlin.String" [] false, .unresolved "Map<K, V>"] []).analyze = .ok analysis ∧
      FakeFile.generate ⟨true⟩ analysis.blueprint = .ok file ∧
      ∃ slot ∈ (ofBlueprint analysis.blueprint).slots, slot.base = "stowMap<K, V>" ∧
        ¬ slot.IsSpelled) ∧
    ∃ analysis file, (cupboard [] ["\u01F0an"]).analyze = .ok analysis ∧
      FakeFile.generate ⟨true⟩ analysis.blueprint = .ok file ∧
      ∃ slot ∈ (ofBlueprint analysis.blueprint).slots, slot.configure = "configureJ\u030Can" ∧
        ¬ slot.IsSpelled := by
  refine ⟨⟨_, _, rfl, rfl, ⟨"stowMap<K, V>"⟩, by decide +kernel, rfl, fun h => ?_⟩,
    ⟨_, _, rfl, rfl, ⟨"\u01F0an"⟩, by decide +kernel, by decide +kernel, fun h => ?_⟩⟩
  · exact absurd h.base (by decide +kernel)
  · exact absurd h.configure (by decide +kernel)

end Subject

end KotlinFakes
