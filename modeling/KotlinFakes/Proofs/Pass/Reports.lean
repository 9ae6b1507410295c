import KotlinFakes.Proofs.Diagnostic.Queue
import KotlinFakes.Proofs.Pass.Exit
import KotlinFakes.Proofs.WellNamed

/-!
# Reports about subjects

What a pass reports about a subject can be told from the subject and its outcome: the reports name the
subject, and one of them is an error if and only if the subject failed.
-/

namespace KotlinFakes

namespace Subject

theorem declaration_of_rejected {s : Subject} {r : Rejection} (h : s.analyze = .error r) :
    r.declaration = s.qualifiedName := by
  have hproperties {ps : List (Inherited × Property)} {r : Rejection}
      (h : lowerProperties s.qualifiedName ps = .error r) : r.declaration = s.qualifiedName := by
    induction ps with
    | nil => cases h
    | cons entry ps ih =>
        unfold lowerProperties at h
        split at h
        · obtain rfl := Except.error.inj h
          rfl
        · split at h
          · next hrest =>
              obtain rfl := Except.error.inj h
              exact ih hrest
          · cases h
  have hsupertype {r : Rejection} (h : s.supertype = .error r) : r.declaration = s.qualifiedName := by
    unfold supertype at h
    split at h
    · cases h
    all_goals try split at h
    all_goals
      cases h
      try rfl
  unfold analyze draft at h
  cases hsuper : s.supertype with
  | error e =>
      simp only [hsuper, Except.error.injEq] at h
      exact h ▸ hsupertype hsuper
  | ok supertype =>
      cases hlower : lowerProperties s.qualifiedName s.fakeableProperties with
      | error e =>
          simp only [hsuper, hlower, Except.error.injEq] at h
          exact h ▸ hproperties hlower
      | ok properties => simp [hsuper, hlower] at h

theorem warning_of_mem_warnings {s : Subject} {analysis : Analysis} (h : s.analyze = .ok analysis)
    {d : Diagnostic} (hd : d ∈ analysis.warnings) :
    d.severity = .warning ∧ d.declaration = some s.qualifiedName := by
  unfold analyze at h
  cases hdraft : s.draft with
  | error r => simp [hdraft] at h
  | ok draft =>
      have hname : draft.blueprint.qualifiedName = s.qualifiedName := by
        obtain ⟨supertype, properties, -, -, hb⟩ := blueprint_of_analyze
          (show s.analyze = .ok _ by rw [analyze, hdraft])
        exact congrArg (fun b => QualifiedName.within b.package b.name) hb
      rw [hdraft] at h
      obtain rfl := Except.ok.inj h
      rw [← hname]
      simp only [Draft.warnings, Draft.functionWarnings, Draft.declarationWarnings, List.mem_append,
        List.mem_map, List.mem_flatMap] at hd
      obtain (⟨bound, -, rfl⟩ | ⟨f, -, ⟨p, -, rfl⟩ | hd⟩) | ⟨p, -, rfl⟩ := hd
      · exact ⟨rfl, rfl⟩
      · exact ⟨rfl, rfl⟩
      · split at hd
        · obtain rfl := List.mem_singleton.1 hd
          exact ⟨rfl, rfl⟩
        · cases hd
      · exact ⟨rfl, rfl⟩

end Subject

namespace Pass

open Disk

/-! ## Outcomes and reports -/

/-- How a subject can end, by its analysis. -/
inductive Ends (s : Subject) : Outcome → Prop where
  | rejected {r : Rejection} (h : s.analyze = .error r) : Ends s (rejectedOutcome r)
  | failed {analysis : Analysis} (h : s.analyze = .ok analysis) {failure : Failure}
      (hfailure : ∀ r, failure ≠ .rejected r) : Ends s (.failed failure)
  | done {analysis : Analysis} (h : s.analyze = .ok analysis) {outcome : Outcome}
      (hfailed : outcome.isFailed = false) (hskipped : outcome.isSkipped = false) : Ends s outcome

/-- What an outcome adds to the warnings of an analysis. -/
def failureReports (s : Subject) : Outcome → List Diagnostic
  | .failed failure => [failure.diagnostic s.qualifiedName]
  | .generated _ | .upToDate _ | .skipped _ => []

/-- What is reported about a subject that ends with an outcome. -/
def reportsOf (s : Subject) (outcome : Outcome) : List Diagnostic :=
  match s.analyze with
  | .error r => [r.diagnostic]
  | .ok analysis => analysis.warnings ++ failureReports s outcome

section Reports

variable {s : Subject}

theorem failureReports_of_not_failed {outcome : Outcome} (h : outcome.isFailed = false) :
    failureReports s outcome = [] := by
  cases outcome with
  | failed failure => cases h
  | generated | upToDate | skipped => rfl

theorem reportsOf_rejected {r : Rejection} (h : s.analyze = .error r) (outcome : Outcome) :
    reportsOf s outcome = [r.diagnostic] := by
  rw [reportsOf, h]

theorem reportsOf_analysed {analysis : Analysis} (h : s.analyze = .ok analysis) (outcome : Outcome) :
    reportsOf s outcome = analysis.warnings ++ failureReports s outcome := by
  rw [reportsOf, h]

end Reports

theorem rejectedOutcome_isFailed (r : Rejection) : (rejectedOutcome r).isFailed = !r.isSkip := by
  cases h : r.isSkip <;> simp [rejectedOutcome, h, Outcome.isFailed]

theorem rejectedOutcome_isSkipped (r : Rejection) : (rejectedOutcome r).isSkipped = r.isSkip := by
  cases h : r.isSkip <;> simp [rejectedOutcome, h, Outcome.isSkipped]

theorem diagnostic_of_not_rejected {failure : Failure} (h : ∀ r, failure ≠ .rejected r)
    (declaration : String) : (failure.diagnostic declaration).isError ∧
      (failure.diagnostic declaration).declaration = some declaration := by
  cases failure with
  | rejected r => exact absurd rfl (h r)
  | unrenderable e => exact ⟨rfl, rfl⟩
  | unwritable path fault => exact ⟨rfl, rfl⟩

theorem isError_rejection (r : Rejection) : r.diagnostic.isError = !r.isSkip := by
  unfold Rejection.diagnostic Diagnostic.isError
  cases r.isSkip <;> rfl

namespace Ends

variable {s : Subject} {outcome : Outcome}

theorem declaration_eq (h : Ends s outcome) {d : Diagnostic} (hd : d ∈ reportsOf s outcome) :
    d.declaration = some s.qualifiedName := by
  cases h with
  | rejected ha =>
      rw [reportsOf_rejected ha, List.mem_singleton] at hd
      rw [hd]
      exact congrArg some (Subject.declaration_of_rejected ha)
  | failed ha hfailure =>
      rw [reportsOf_analysed ha, failureReports, List.mem_append, List.mem_singleton] at hd
      obtain hd | rfl := hd
      · exact (Subject.warning_of_mem_warnings ha hd).2
      · exact (diagnostic_of_not_rejected hfailure _).2
  | done ha hfailed hskipped =>
      rw [reportsOf_analysed ha, failureReports_of_not_failed hfailed, List.append_nil] at hd
      exact (Subject.warning_of_mem_warnings ha hd).2

theorem filter_reports_eq_nil (h : Ends s outcome) {declaration : Option String}
    (hne : some s.qualifiedName ≠ declaration) :
    (reportsOf s outcome).filter (fun d => d.declaration = declaration) = [] := by
  rw [List.filter_eq_nil_iff]
  intro d hd
  rw [h.declaration_eq hd]
  simpa using hne

theorem isFailed_iff (h : Ends s outcome) :
    outcome.isFailed ↔ ∃ d ∈ reportsOf s outcome, d.isError := by
  cases h with
  | @rejected r ha => simp [reportsOf_rejected ha, rejectedOutcome_isFailed, isError_rejection]
  | failed ha hfailure =>
      rw [reportsOf_analysed ha]
      refine iff_of_true rfl ⟨_, List.mem_append_right _ (List.mem_singleton_self _), ?_⟩
      exact (diagnostic_of_not_rejected hfailure _).1
  | done ha hfailed hskipped =>
      rw [reportsOf_analysed ha, failureReports_of_not_failed hfailed, List.append_nil, hfailed]
      refine iff_of_false Bool.false_ne_true ?_
      rintro ⟨d, hd, herror⟩
      rw [Diagnostic.isError, (Subject.warning_of_mem_warnings ha hd).1] at herror
      cases herror

theorem exists_warning_of_isSkipped (h : Ends s outcome) (hskipped : outcome.isSkipped) :
    ∃ d ∈ reportsOf s outcome, d.isWarning ∧ d.code = .unsupportedShape := by
  cases h with
  | @rejected r ha =>
      rw [rejectedOutcome_isSkipped] at hskipped
      rw [reportsOf_rejected ha]
      refine ⟨r.diagnostic, List.mem_singleton_self _, ?_, of_decide_eq_true hskipped⟩
      rw [Diagnostic.isWarning, Rejection.diagnostic, hskipped]
      rfl
  | failed => cases hskipped
  | done ha hfailed hnot =>
      rw [hnot] at hskipped
      cases hskipped

end Ends

/-! ## Reports of programs -/

/-- Processing a subject reports what belongs to its outcome. -/
theorem process_reports {config : Config} {s : Subject} {state state' : State}
    {disk changed : Disk} {outcome : Outcome}
    (h : process (m := StateM Disk) config s state disk = ((outcome, state'), changed)) :
    Ends s outcome ∧ state'.reports = state.reports.addAll (reportsOf s outcome) := by
  cases process_exit h with
  | rejected ha =>
      rw [reportsOf_rejected ha]
      exact ⟨.rejected ha, rfl⟩
  | upToDate ha hasked =>
      rw [reportsOf_analysed ha, failureReports, List.append_nil]
      exact ⟨.done ha rfl rfl, rfl⟩
  | unrenderable ha hasked hrender =>
      rw [reportsOf_analysed ha, DiagnosticQueue.addAll_append]
      exact ⟨.failed ha nofun, rfl⟩
  | unwritable ha hasked hrender hreplace =>
      rw [reportsOf_analysed ha, DiagnosticQueue.addAll_append]
      exact ⟨.failed ha nofun, rfl⟩
  | generated ha hasked hrender hreplace hrecord =>
      rw [reportsOf_analysed ha, failureReports, List.append_nil]
      exact ⟨.done ha rfl rfl, reports_record hrecord⟩

/-- What is reported about subjects with the outcomes that they end with, in order. -/
def allReports (subjects : List Subject) (outcomes : List (String × Outcome)) : List Diagnostic :=
  (subjects.zip outcomes).flatMap fun entry => reportsOf entry.1 entry.2.2

theorem allReports_map (subjects : List Subject) (f : Subject → Outcome) :
    allReports subjects (subjects.map fun s => (s.qualifiedName, f s)) =
      subjects.flatMap fun s => reportsOf s (f s) := by
  rw [allReports, ← List.map_prod_left_eq_zip, List.flatMap_map]

theorem processAll_reports {config : Config} {subjects : List Subject} {state state' : State}
    {disk changed : Disk} {outcomes : List (String × Outcome)}
    (h : processAll (m := StateM Disk) config subjects state disk = ((outcomes, state'), changed)) :
    List.Forall₂ (fun s entry => entry.1 = s.qualifiedName ∧ Ends s entry.2) subjects outcomes ∧
      state'.reports = state.reports.addAll (allReports subjects outcomes) := by
  induction subjects generalizing state disk outcomes with
  | nil =>
      obtain ⟨hresult, -⟩ := Prod.mk.inj h
      obtain ⟨rfl, rfl⟩ := Prod.mk.inj hresult
      exact ⟨.nil, rfl⟩
  | cons s rest ih =>
      obtain ⟨outcome, between, written, more, hprocess, hrest, rfl⟩ := exists_of_processAll_cons h
      obtain ⟨hends, hfirst⟩ := process_reports hprocess
      obtain ⟨hall, hreports⟩ := ih hrest
      refine ⟨.cons ⟨rfl, hends⟩ hall, ?_⟩
      rw [hreports, hfirst, ← DiagnosticQueue.addAll_append]
      rfl

theorem finish_reports {state final : State} {disk changed : Disk}
    (h : finish (m := StateM Disk) state disk = (final, changed)) :
    ∃ ds, final.reports = state.reports.addAll ds ∧
      ∀ d ∈ ds, d.isError = false ∧ d.declaration = none := by
  unfold finish at h
  cases hstore : state.store with
  | none =>
      rw [hstore] at h
      obtain ⟨rfl, -⟩ := Prod.mk.inj h
      exact ⟨[], rfl, nofun⟩
  | some known =>
      rw [hstore] at h
      obtain ⟨⟨result, saved⟩, between, -, h⟩ := exists_of_bind h
      obtain ⟨rfl, -⟩ := Prod.mk.inj h
      refine ⟨_, rfl, fun d hd => ?_⟩
      obtain ⟨e, -, rfl⟩ := List.mem_map.1 hd
      exact ⟨rfl, rfl⟩

end Pass

end KotlinFakes
