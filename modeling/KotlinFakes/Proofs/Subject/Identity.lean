import KotlinFakes.Fake.File
import KotlinFakes.Proofs.Subject.Coverage
import KotlinFakes.Proofs.Ty.Erasure
import KotlinFakes.Subject.Analysis

/-!
# What tells functions apart

Two places compare functions by name and parameter types. An inherited function is left out if the body
declares one with the same key, and a file is refused if two of its functions are the same overload. A
key has the element type of a `vararg`, an overload has the array that the function receives. The array
of a type determines the type and is never the type itself. So both comparisons come to the same for
functions that have their `vararg` parameters at the same places, and never for other ones.
-/

namespace KotlinFakes

namespace Blueprint.Parameter

variable {p q : Parameter}

theorem valueType_eq_iff (h : p.isVararg = q.isVararg) :
    p.valueType = q.valueType ↔ p.type = q.type := by
  unfold valueType
  rw [h]
  split
  · exact Ty.varargArray_inj
  · rfl

theorem isVararg_eq (htype : p.type = q.type) (hvalue : p.valueType = q.valueType) :
    p.isVararg = q.isVararg := by
  unfold valueType at hvalue
  rw [htype] at hvalue
  cases hp : p.isVararg <;> cases hq : q.isVararg <;> simp only [hp, hq] at hvalue
  · rfl
  · exact absurd hvalue.symm q.type.varargArray_ne_self
  · exact absurd hvalue q.type.varargArray_ne_self
  · rfl

end Blueprint.Parameter

/-! ## Keys and overloads -/

theorem map_eq_map_of {α β γ δ : Type} {first : α → β} {second : α → γ} {third : α → δ}
    (h : ∀ a b, first a = first b → second a = second b → third a = third b) {as bs : List α}
    (hfirst : as.map first = bs.map first) (hsecond : as.map second = bs.map second) :
    as.map third = bs.map third := by
  induction as generalizing bs with
  | nil =>
      cases bs with
      | nil => rfl
      | cons b bs => cases hfirst
  | cons a as ih =>
      cases bs with
      | nil => cases hfirst
      | cons b bs =>
          simp only [List.map_cons, List.cons.injEq] at hfirst hsecond ⊢
          exact ⟨h a b hfirst.1 hsecond.1, ih hfirst.2 hsecond.2⟩

namespace Subject

namespace Function

/-- Which parameters of a function are `vararg`. -/
def varargs (f : Function) : List Bool := f.parameters.map Parameter.isVararg

/-- What tells the function apart in a file, whatever it overrides. -/
def overload (f : Function) : String × List Ty := (f.lower .abstract).overload

variable {f g : Function}

theorem overload_lower (f : Function) (inherited : Inherited) :
    (f.lower inherited).overload = f.overload := rfl

theorem key_eq_iff : (Member.function f).key = (Member.function g).key ↔ f.name = g.name ∧
    (f.parameters.map lowerParameter).map Blueprint.Parameter.type =
      (g.parameters.map lowerParameter).map Blueprint.Parameter.type := by
  rw [Member.key, Member.key, Member.Key.function.injEq, List.map_map, List.map_map]
  rfl

theorem overload_eq_iff : f.overload = g.overload ↔ f.name = g.name ∧
    (f.parameters.map lowerParameter).map Blueprint.Parameter.valueType =
      (g.parameters.map lowerParameter).map Blueprint.Parameter.valueType := by
  rw [overload, overload, Blueprint.Function.overload, Blueprint.Function.overload, Prod.mk.injEq]
  rfl

theorem varargs_eq_iff : f.varargs = g.varargs ↔
    (f.parameters.map lowerParameter).map Blueprint.Parameter.isVararg =
      (g.parameters.map lowerParameter).map Blueprint.Parameter.isVararg := by
  rw [varargs, varargs, List.map_map, List.map_map]
  rfl

/-- Functions that both comparisons take for the same have their `vararg` parameters at the same
    places. -/
theorem varargs_eq (hkey : (Member.function f).key = (Member.function g).key)
    (hoverload : f.overload = g.overload) : f.varargs = g.varargs := by
  rw [key_eq_iff] at hkey
  rw [overload_eq_iff] at hoverload
  rw [varargs_eq_iff]
  exact map_eq_map_of (fun _ _ => Blueprint.Parameter.isVararg_eq) hkey.2 hoverload.2

theorem key_eq_iff_overload_eq (h : f.varargs = g.varargs) :
    (Member.function f).key = (Member.function g).key ↔ f.overload = g.overload := by
  rw [varargs_eq_iff] at h
  rw [key_eq_iff, overload_eq_iff]
  refine and_congr_right fun _ => ⟨fun htypes => ?_, fun hvalues => ?_⟩
  · exact map_eq_map_of (fun _ _ hvararg => (Blueprint.Parameter.valueType_eq_iff hvararg).2) h htypes
  · exact map_eq_map_of (fun _ _ hvararg => (Blueprint.Parameter.valueType_eq_iff hvararg).1) h hvalues

end Function

/-- Whether the body declares a function that is the same overload as the given one. -/
def Redeclares (s : Subject) (f : Function) : Prop :=
  ∃ g, .function g ∈ s.members ∧ g.origin = .declared ∧ f.overload = g.overload

variable {s : Subject} {f : Function}

theorem overrides?_eq_none_iff (horigin : f.origin = .inherited)
    (hfakeable : (Member.function f).inherited?.isSome) :
    s.overrides? (.function f) = none ↔ ∃ g, .function g ∈ s.members ∧ g.origin = .declared ∧
      (Member.function f).key = (Member.function g).key := by
  have hdeclared : (Member.function f).key ∈ s.declaredKeys ↔ ∃ g, .function g ∈ s.members ∧
      g.origin = .declared ∧ (Member.function f).key = (Member.function g).key := by
    rw [mem_declaredKeys]
    constructor
    · rintro ⟨other, hother, hdeclared, hkey⟩
      cases other with
      | function g => exact ⟨g, hother, hdeclared, hkey.symm⟩
      | property p => cases hkey
    · rintro ⟨g, hg, hdeclared, hkey⟩
      exact ⟨_, hg, hdeclared, hkey.symm⟩
  obtain ⟨inherited, hinherited⟩ := Option.isSome_iff_exists.1 hfakeable
  have horigin : (Member.function f).origin = .inherited := horigin
  rw [← hdeclared, overrides?, hinherited, Option.filter_eq_none_iff]
  simp [horigin]

/-- The key by which an inherited function is left out and the overload by which a file is refused tell two
    functions apart alike if and only if those that either of them takes for the same have their `vararg`
    parameters at the same places. So an inherited function is left out exactly when the body declares
    the same overload, as long as such functions of the body have theirs at its places. -/
theorem key_agrees_overload_iff_varargs (f : Function) :
    (∀ g inherited inherited',
      (((Member.function f).key = (Member.function g).key ↔
          (f.lower inherited).overload = (g.lower inherited').overload) ↔
        ((Member.function f).key = (Member.function g).key ∨
          (f.lower inherited).overload = (g.lower inherited').overload → f.varargs = g.varargs))) ∧
    ∀ s : Subject, f.origin = .inherited → (Member.function f).inherited?.isSome →
      (∀ g, .function g ∈ s.members → g.origin = .declared →
        (Member.function f).key = (Member.function g).key ∨ f.overload = g.overload →
          f.varargs = g.varargs) →
      (s.overrides? (.function f) = none ↔ s.Redeclares f) := by
  constructor
  · intro g inherited inherited'
    rw [f.overload_lower, g.overload_lower]
    constructor
    · intro hagree hsame
      obtain hkey | hoverload := hsame
      · exact Function.varargs_eq hkey (hagree.1 hkey)
      · exact Function.varargs_eq (hagree.2 hoverload) hoverload
    · intro hvarargs
      constructor
      · intro hkey
        exact (Function.key_eq_iff_overload_eq (hvarargs (.inl hkey))).1 hkey
      · intro hoverload
        exact (Function.key_eq_iff_overload_eq (hvarargs (.inr hoverload))).2 hoverload
  · intro s horigin hfakeable hvarargs
    rw [overrides?_eq_none_iff horigin hfakeable]
    constructor
    · rintro ⟨g, hg, hdeclared, hkey⟩
      have h := hvarargs g hg hdeclared (.inl hkey)
      exact ⟨g, hg, hdeclared, (Function.key_eq_iff_overload_eq h).1 hkey⟩
    · rintro ⟨g, hg, hdeclared, hoverload⟩
      have h := hvarargs g hg hdeclared (.inr hoverload)
      exact ⟨g, hg, hdeclared, (Function.key_eq_iff_overload_eq h).2 hoverload⟩

/-- A function with one parameter. -/
def record (name : String) (type : TypeRef) (isVararg : Bool) (origin : Origin) : Function :=
  { textFunction name [⟨"items", type, isVararg, false⟩] with origin := origin }

/-- A function `log` of some texts, or of one. -/
def log (isVararg : Bool) (origin : Origin) : Function :=
  record "log" (.ofClass "kotlin.String" [] false) isVararg origin

/-- A function `fill` of some numbers. -/
def fillEach : Function := record "fill" (.ofClass "kotlin.Int" [] false) true .inherited

/-- A function `fill` of an array of numbers. -/
def fillAll : Function := record "fill" (.ofClass "kotlin.IntArray" [] false) false .declared

/-- An interface that inherits one function and declares another one. -/
def recorder (inherited declared : Function) : Subject :=
  ⟨"app", "Recorder", .interface, [], [.function inherited, .function declared], ["Fake"], 0, none⟩

theorem redeclares_recorder_iff {inherited declared : Function}
    (hinherited : inherited.origin = .inherited) (hdeclared : declared.origin = .declared) :
    (recorder inherited declared).Redeclares inherited ↔ inherited.overload = declared.overload := by
  constructor
  · rintro ⟨g, hg, horigin, hoverload⟩
    simp only [recorder, List.mem_cons, Member.function.injEq, List.not_mem_nil, or_false] at hg
    obtain rfl | rfl := hg
    · rw [hinherited] at horigin
      cases horigin
    · exact hoverload
  · intro hoverload
    exact ⟨declared, by simp [recorder], hdeclared, hoverload⟩

/-- A `vararg` function that is written again is left out, and is the same overload. -/
theorem key_agrees_overload_iff_varargs_recorder :
    (recorder (log true .inherited) (log true .declared)).overrides?
        (.function (log true .inherited)) = none ∧
      (recorder (log true .inherited) (log true .declared)).Redeclares (log true .inherited) := by
  have hredeclares : (recorder (log true .inherited) (log true .declared)).Redeclares
      (log true .inherited) := (redeclares_recorder_iff rfl rfl).2 rfl
  have hleft := (key_agrees_overload_iff_varargs (log true .inherited)).2
    (recorder (log true .inherited) (log true .declared)) rfl rfl
  refine ⟨(hleft ?_).2 hredeclares, hredeclares⟩
  intro g hg _ _
  simp only [recorder, List.mem_cons, Member.function.injEq, List.not_mem_nil, or_false] at hg
  obtain rfl | rfl := hg <;> rfl

/-- A `vararg` function is left out for one of a single element, which is another overload. It is kept
    beside one of an array, which is the same overload, and then the file is refused. -/
theorem exists_key_disagrees_overload :
    (∃ analysis, (recorder (log true .inherited) (log false .declared)).analyze = .ok analysis ∧
      analysis.blueprint.functions = [(log false .declared).lower .abstract] ∧
      ¬ (recorder (log true .inherited) (log false .declared)).Redeclares (log true .inherited)) ∧
    ∃ analysis, (recorder fillEach fillAll).analyze = .ok analysis ∧
      analysis.blueprint.functions = [fillEach.lower .abstract, fillAll.lower .abstract] ∧
      (recorder fillEach fillAll).Redeclares fillEach ∧
      FakeFile.generate ⟨true⟩ analysis.blueprint =
        .error (.duplicateFunction "app.Recorder" "fill") := by
  refine ⟨⟨_, rfl, rfl, ?_⟩, ⟨_, rfl, rfl, ?_, rfl⟩⟩
  · rw [redeclares_recorder_iff rfl rfl]
    decide
  · rw [redeclares_recorder_iff rfl rfl]
    decide

end Subject

end KotlinFakes
