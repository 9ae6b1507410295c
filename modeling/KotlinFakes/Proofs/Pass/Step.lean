import KotlinFakes.Proofs.Pass.Placement
import KotlinFakes.Proofs.Store.Files

/-!
# Steps of a pass

What processing one subject can do: nothing, leave a draft behind, or write the file of the subject and
record its digest. Invariants of a pass are proved from these steps alone.
-/

namespace KotlinFakes.Pass

open Disk

/-- What a file is generated from: the options of a pass and a blueprint. -/
structure Request where
  options : FileOptions
  blueprint : Blueprint
  deriving Repr, DecidableEq

namespace Request

def id (r : Request) : String := r.blueprint.id

def signature (r : Request) : Signature :=
  .compute generatorVersion r.options.fingerprint r.blueprint

def text (r : Request) : String := (FakeFile.build r.options r.blueprint).text

def path (output : Path) (r : Request) : Path := r.blueprint.targetPath output

theorem text_eq_of_generate {options : FileOptions} {b : Blueprint} {file : FakeFile}
    (h : FakeFile.generate options b = .ok file) : text ⟨options, b⟩ = file.text := by
  rw [← (FakeFile.generate_eq_ok_iff.1 h).2]
  rfl

end Request

/-- What the file of a subject is generated from, if the subject is not rejected. -/
def request? (config : Config) (s : Subject) : Option Request :=
  match s.analyze with
  | .ok analysis => some ⟨config.fileOptions, analysis.blueprint⟩
  | .error _ => none

theorem exists_of_request? {config : Config} {s : Subject} {r : Request}
    (h : request? config s = some r) :
    ∃ analysis, s.analyze = .ok analysis ∧ r = ⟨config.fileOptions, analysis.blueprint⟩ := by
  unfold request? at h
  split at h
  · next analysis hanalysis => exact ⟨analysis, hanalysis, (Option.some.inj h).symm⟩
  · cases h

theorem rejectedOutcome_cases (r : Rejection) :
    (∃ reason, rejectedOutcome r = .skipped reason) ∨
      ∃ failure, rejectedOutcome r = .failed failure := by
  unfold rejectedOutcome
  split
  · exact .inl ⟨_, rfl⟩
  · exact .inr ⟨_, rfl⟩

/-- What processing a subject can do to the store and the disk. -/
inductive Step (config : Config) (s : Subject) (store : Option SignatureStore) (disk : Disk) :
    Outcome → Option SignatureStore → Disk → Prop where
  | rejected (r : Rejection) : Step config s store disk (rejectedOutcome r) store disk
  | upToDate {r : Request} {known : SignatureStore} {changed : Disk}
      (hr : request? config s = some r) (hstore : store = some known)
      (hdegraded : known.isDegraded = false)
      (hdigest : known.digest? r.id = some r.signature.digest)
      (hfiles : SameFilesBut [] disk changed) (hfile : changed.hasFile (r.path config.output)) :
      Step config s store disk (.upToDate (r.path config.output)) store changed
  | failed {r : Request} (failure : Failure) {changed : Disk} (hr : request? config s = some r)
      (hfiles : SameFilesBut [(r.path config.output).draft.place disk.home] disk changed) :
      Step config s store disk (.failed failure) store changed
  | generated {r : Request} {written changed : Disk} {recorded : Option SignatureStore}
      (hr : request? config s = some r) (hrender : r.blueprint.renderError? = none)
      (hfiles : SameFilesBut [(r.path config.output).place disk.home,
        (r.path config.output).draft.place disk.home] disk written)
      (hfile : written.file? ((r.path config.output).place disk.home) = some r.text.toUTF8)
      (hrecord : store = none ∧ recorded = none ∧ changed = written ∨
        ∃ known remembered, store = some known ∧ recorded = some remembered ∧
          known.record (m := StateM Disk) r.id r.signature written = (remembered, changed)) :
      Step config s store disk (.generated (r.path config.output)) recorded changed

theorem isUpToDate_spec {config : Config} {state : State} {b : Blueprint} {signature : Signature}
    {disk changed : Disk} {answer : Bool}
    (h : isUpToDate (m := StateM Disk) config state b signature disk = (answer, changed)) :
    SameFilesBut [] disk changed ∧
      (answer = true → state.isCurrent b.id signature ∧
        changed.hasFile (b.targetPath config.output)) := by
  unfold isUpToDate at h
  split at h
  · next hcurrent =>
      obtain ⟨hfiles, hfile⟩ := FileSystem.isFile_spec h
      rw [Bool.and_eq_true] at hcurrent
      exact ⟨hfiles, fun htrue => ⟨hcurrent.2, hfile htrue⟩⟩
  · obtain ⟨rfl, rfl⟩ := Prod.mk.inj h
    exact ⟨.rfl, nofun⟩

theorem exists_store_of_isCurrent {state : State} {id : String} {signature : Signature}
    (h : state.isCurrent id signature) :
    ∃ known, state.store = some known ∧ known.isDegraded = false ∧
      known.digest? id = some signature.digest := by
  unfold State.isCurrent at h
  split at h
  · cases h
  · next known hstore =>
      simp only [SignatureStore.needsGeneration, Bool.not_or, Bool.and_eq_true, Bool.not_eq_true',
        bne_eq_false_iff_eq] at h
      exact ⟨known, hstore, h⟩

theorem record_cases {state recorded : State} {id : String} {signature : Signature}
    {disk changed : Disk}
    (h : state.record (m := StateM Disk) id signature disk = (recorded, changed)) :
    state.store = none ∧ recorded.store = none ∧ changed = disk ∨
      ∃ known remembered, state.store = some known ∧ recorded.store = some remembered ∧
        known.record (m := StateM Disk) id signature disk = (remembered, changed) := by
  unfold State.record at h
  cases hstore : state.store with
  | none =>
      rw [hstore] at h
      obtain ⟨rfl, rfl⟩ := Prod.mk.inj h
      exact .inl ⟨rfl, hstore, rfl⟩
  | some known =>
      rw [hstore] at h
      obtain ⟨remembered, after, hrecord, h⟩ := exists_of_bind h
      obtain ⟨rfl, rfl⟩ := Prod.mk.inj h
      exact .inr ⟨known, remembered, rfl, rfl, hrecord⟩

theorem write_step {config : Config} {s : Subject} {state state' : State} {r : Request}
    {disk asked changed : Disk} {outcome : Outcome} (hr : request? config s = some r)
    (hasked : SameFilesBut [] disk asked)
    (h : write (m := StateM Disk) config s state r.blueprint r.signature asked =
      ((outcome, state'), changed)) :
    Step config s state.store disk outcome state'.store changed := by
  have hoptions : r.options = config.fileOptions := by
    obtain ⟨analysis, -, rfl⟩ := exists_of_request? hr
    rfl
  unfold write FakeFile.generate at h
  cases hrender : r.blueprint.renderError? with
  | some e =>
      simp only [hrender] at h
      obtain ⟨hresult, rfl⟩ := Prod.mk.inj h
      obtain ⟨rfl, rfl⟩ := Prod.mk.inj hresult
      exact .failed _ hr (hasked.mono (List.nil_subset _))
  | none =>
      simp only [hrender] at h
      obtain ⟨result, written, hreplace, h⟩ := exists_of_bind h
      have hreplaces := FileSystem.replaceCleanly_spec hreplace
      cases result with
      | error fault =>
          obtain ⟨hresult, rfl⟩ := Prod.mk.inj h
          obtain ⟨rfl, rfl⟩ := Prod.mk.inj hresult
          refine .failed _ hr ((hasked.mono (List.nil_subset _)).trans ?_)
          exact hasked.home ▸ hreplaces.kept (by simp)
      | ok _ =>
          obtain ⟨recorded, after, hrecord, h⟩ := exists_of_bind h
          obtain ⟨hresult, rfl⟩ := Prod.mk.inj h
          obtain ⟨rfl, rfl⟩ := Prod.mk.inj hresult
          have hfiles := hreplaces.files
          have hfile := hreplaces.written rfl
          rw [hasked.home] at hfiles hfile
          refine .generated hr hrender ((hasked.mono (List.nil_subset _)).trans hfiles) ?_
            (record_cases hrecord)
          rw [Request.text, hoptions]
          exact hfile

/-- Processing a subject is one of the steps. -/
theorem process_step {config : Config} {s : Subject} {state state' : State} {disk changed : Disk}
    {outcome : Outcome}
    (h : process (m := StateM Disk) config s state disk = ((outcome, state'), changed)) :
    Step config s state.store disk outcome state'.store changed := by
  unfold process at h
  cases ha : s.analyze with
  | error r =>
      rw [ha] at h
      obtain ⟨hresult, rfl⟩ := Prod.mk.inj h
      obtain ⟨rfl, rfl⟩ := Prod.mk.inj hresult
      exact .rejected r
  | ok analysis =>
      rw [ha] at h
      let r : Request := ⟨config.fileOptions, analysis.blueprint⟩
      have hr : request? config s = some r := by rw [request?, ha]
      obtain ⟨answer, asked, hasked, h⟩ := exists_of_bind h
      obtain ⟨hfiles, hcurrent⟩ := isUpToDate_spec hasked
      cases answer with
      | false =>
          rw [if_neg Bool.false_ne_true] at h
          exact (write_step (r := r) hr hfiles h :)
      | true =>
          rw [if_pos rfl] at h
          obtain ⟨hresult, rfl⟩ := Prod.mk.inj h
          obtain ⟨rfl, rfl⟩ := Prod.mk.inj hresult
          obtain ⟨hcurrent, hfile⟩ := hcurrent rfl
          obtain ⟨known, hstore, hdegraded, hdigest⟩ := exists_store_of_isCurrent hcurrent
          exact .upToDate (r := r) hr hstore hdegraded hdigest hfiles hfile

theorem Step.of_upToDate {config : Config} {s : Subject} {store recorded : Option SignatureStore}
    {disk changed : Disk} {outcome : Outcome} {path : Path}
    (h : Step config s store disk outcome recorded changed) (houtcome : outcome = .upToDate path) :
    ∃ r known, request? config s = some r ∧ path = r.path config.output ∧ store = some known ∧
      known.isDegraded = false ∧ known.digest? r.id = some r.signature.digest ∧
      SameFilesBut [] disk changed ∧ changed.hasFile path := by
  cases h with
  | rejected r =>
      obtain ⟨_, hr⟩ | ⟨_, hr⟩ := rejectedOutcome_cases r <;> (rw [hr] at houtcome; cases houtcome)
  | upToDate hr hstore hdegraded hdigest hfiles hfile =>
      obtain rfl := Outcome.upToDate.inj houtcome
      exact ⟨_, _, hr, rfl, hstore, hdegraded, hdigest, hfiles, hfile⟩
  | failed failure hr hfiles => cases houtcome
  | generated hr hrender hfiles hfile hrecord => cases houtcome

/-- What was generated for a subject, if its outcome says so. -/
def generated (config : Config) (s : Subject) (outcome : Outcome) : List Request :=
  if outcome.isGenerated then (request? config s).toList else []

/-- What was generated for the subjects of a pass, in order. -/
def generations (config : Config) (subjects : List Subject) (outcomes : List (String × Outcome)) :
    List Request :=
  (subjects.zip outcomes).flatMap fun entry => generated config entry.1 entry.2.2

theorem exists_of_mem_generations {config : Config} {subjects : List Subject}
    {outcomes : List (String × Outcome)} {r : Request}
    (h : r ∈ generations config subjects outcomes) :
    ∃ s ∈ subjects, request? config s = some r := by
  obtain ⟨⟨s, name, outcome⟩, hentry, hr⟩ := List.mem_flatMap.1 h
  refine ⟨s, (List.of_mem_zip hentry).1, ?_⟩
  unfold generated at hr
  split at hr
  · exact Option.mem_toList.1 hr
  · cases hr

theorem processAll_cons {config : Config} {s : Subject} {rest : List Subject}
    {state between : State} {disk written : Disk} {outcome : Outcome}
    (h : process (m := StateM Disk) config s state disk = ((outcome, between), written)) :
    processAll (m := StateM Disk) config (s :: rest) state disk =
      let more := processAll (m := StateM Disk) config rest between written
      (((s.qualifiedName, outcome) :: more.1.1, more.1.2), more.2) := by
  rw [processAll, List.map_cons, processEach]
  simp only [bind, StateT.bind, h]
  rfl

theorem exists_of_processAll_cons {config : Config} {s : Subject} {rest : List Subject}
    {state final : State} {disk changed : Disk} {outcomes : List (String × Outcome)}
    (h : processAll (m := StateM Disk) config (s :: rest) state disk =
      ((outcomes, final), changed)) :
    ∃ outcome between written more,
      process (m := StateM Disk) config s state disk = ((outcome, between), written) ∧
      processAll (m := StateM Disk) config rest between written = ((more, final), changed) ∧
      outcomes = (s.qualifiedName, outcome) :: more := by
  obtain ⟨⟨outcome, between⟩, written, hprocess, h⟩ := exists_of_bind h
  obtain ⟨⟨more, last⟩, after, hrest, h⟩ := exists_of_bind h
  obtain ⟨hresult, rfl⟩ := Prod.mk.inj h
  obtain ⟨rfl, rfl⟩ := Prod.mk.inj hresult
  exact ⟨outcome, between, written, more, hprocess, hrest, rfl⟩

theorem exists_of_processAll_append {config : Config} {before after : List Subject} {s : Subject}
    {state final : State} {disk changed : Disk} {outcomes : List (String × Outcome)}
    (h : processAll (m := StateM Disk) config (before ++ s :: after) state disk =
      ((outcomes, final), changed)) :
    ∃ done between reached outcome next written rest,
      processAll (m := StateM Disk) config before state disk = ((done, between), reached) ∧
      process (m := StateM Disk) config s between reached = ((outcome, next), written) ∧
      processAll (m := StateM Disk) config after next written = ((rest, final), changed) ∧
      outcomes = done ++ (s.qualifiedName, outcome) :: rest := by
  induction before generalizing state disk outcomes with
  | nil =>
      obtain ⟨outcome, next, written, rest, hprocess, hrest, rfl⟩ := exists_of_processAll_cons h
      exact ⟨[], state, disk, outcome, next, written, rest, rfl, hprocess, hrest, rfl⟩
  | cons first before ih =>
      obtain ⟨made, middle, begun, more, hfirst, hmore, rfl⟩ := exists_of_processAll_cons h
      obtain ⟨done, between, reached, outcome, next, written, rest, hbefore, hprocess, hafter, rfl⟩ :=
        ih hmore
      refine ⟨(first.qualifiedName, made) :: done, between, reached, outcome, next, written, rest, ?_,
        hprocess, hafter, rfl⟩
      rw [processAll_cons hfirst, hbefore]

/-- What every step keeps, given what was generated up to it, is kept by a list of subjects. -/
theorem processAll_induction {config : Config} {subjects : List Subject} {state state' : State}
    {disk changed : Disk} {outcomes : List (String × Outcome)}
    (kept : List Request → Option SignatureStore → Disk → Prop)
    (hstep : ∀ s ∈ subjects, ∀ made store disk outcome store' changed, kept made store disk →
      Step config s store disk outcome store' changed →
        kept (made ++ generated config s outcome) store' changed)
    (h : processAll (m := StateM Disk) config subjects state disk = ((outcomes, state'), changed))
    (made : List Request) (hkept : kept made state.store disk) :
    kept (made ++ generations config subjects outcomes) state'.store changed := by
  induction subjects generalizing state disk outcomes made with
  | nil =>
      obtain ⟨hresult, rfl⟩ := Prod.mk.inj h
      obtain ⟨rfl, rfl⟩ := Prod.mk.inj hresult
      simpa [generations] using hkept
  | cons s rest ih =>
      obtain ⟨outcome, between, written, more, hprocess, hrest, rfl⟩ := exists_of_processAll_cons h
      have hfirst := hstep s (by simp) _ _ _ _ _ _ hkept (process_step hprocess)
      have := ih (fun s hs => hstep s (List.mem_cons_of_mem _ hs)) hrest _ hfirst
      simpa [generations, List.append_assoc] using this

theorem finish_cases {state final : State} {disk changed : Disk}
    (h : finish (m := StateM Disk) state disk = (final, changed)) :
    state.store = none ∧ final.store = none ∧ changed = disk ∨
      ∃ known saved result, state.store = some known ∧ final.store = some saved ∧
        known.takeErrors.2.flush (m := StateM Disk) disk = ((result, saved), changed) := by
  unfold finish at h
  cases hstore : state.store with
  | none =>
      rw [hstore] at h
      obtain ⟨rfl, rfl⟩ := Prod.mk.inj h
      exact .inl ⟨rfl, hstore, rfl⟩
  | some known =>
      rw [hstore] at h
      obtain ⟨⟨result, saved⟩, after, hflush, h⟩ := exists_of_bind h
      obtain ⟨rfl, rfl⟩ := Prod.mk.inj h
      exact .inr ⟨known, saved, result, rfl, rfl, hflush⟩

end KotlinFakes.Pass
