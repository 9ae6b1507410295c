import KotlinFakes.Proofs.Files.Directories
import KotlinFakes.Proofs.Pass.Step

/-!
# Exits of a step

Every way in which processing one subject can end, with all that happened before. What a pass reports
and where its files are is read off the exits.
-/

namespace KotlinFakes

open Disk

namespace SignatureStore

theorem keeping_appendEntry (path : Path) (id : String) (signature : Signature) :
    Keeping (appendEntry (m := StateM Disk) path id signature).run := by
  unfold appendEntry
  refine (FileSystem.keeping_makeParent path).run_bind fun _ => ?_
  refine Keeping.run_bind ?_ fun isPresent => ?_
  · exact (FileSystem.keeping_isPresent path).bind fun _ => keeping_pure _
  · split
    · exact FileSystem.keeping_appendText _ _
    · exact FileSystem.keeping_appendText _ _

theorem keeping_record (store : SignatureStore) (id : String) (signature : Signature) :
    Keeping (store.record (m := StateM Disk) id signature) := by
  unfold record
  dsimp only
  split
  · exact keeping_pure _
  · refine (keeping_appendEntry _ id signature).bind fun result => ?_
    split <;> exact keeping_pure _

theorem keeping_flush (store : SignatureStore) : Keeping (store.flush (m := StateM Disk)) := by
  unfold flush
  split
  · exact keeping_pure _
  · refine (FileSystem.keeping_replaceText _ _).bind fun result => ?_
    split <;> exact keeping_pure _

end SignatureStore

namespace Pass

/-- The signature of a blueprint under the options of a pass. -/
def signatureOf (config : Config) (b : Blueprint) : Signature :=
  .compute generatorVersion config.fileOptions.fingerprint b

/-- How processing a subject can end. -/
inductive Exit (config : Config) (s : Subject) (state : State) (disk : Disk) :
    Outcome → State → Disk → Prop where
  | rejected {r : Rejection} (ha : s.analyze = .error r) :
      Exit config s state disk (rejectedOutcome r) (state.report [r.diagnostic]) disk
  | upToDate {analysis : Analysis} {asked : Disk} (ha : s.analyze = .ok analysis)
      (hasked : isUpToDate (m := StateM Disk) config (state.report analysis.warnings)
        analysis.blueprint (signatureOf config analysis.blueprint) disk = (true, asked)) :
      Exit config s state disk (.upToDate (analysis.blueprint.targetPath config.output))
        (state.report analysis.warnings) asked
  | unrenderable {analysis : Analysis} {asked : Disk} {e : RenderError}
      (ha : s.analyze = .ok analysis)
      (hasked : isUpToDate (m := StateM Disk) config (state.report analysis.warnings)
        analysis.blueprint (signatureOf config analysis.blueprint) disk = (false, asked))
      (hrender : FakeFile.generate config.fileOptions analysis.blueprint = .error e) :
      Exit config s state disk (.failed (.unrenderable e))
        ((state.report analysis.warnings).report
          [(Failure.unrenderable e).diagnostic s.qualifiedName]) asked
  | unwritable {analysis : Analysis} {asked changed : Disk} {file : FakeFile} {fault : FileFault}
      (ha : s.analyze = .ok analysis)
      (hasked : isUpToDate (m := StateM Disk) config (state.report analysis.warnings)
        analysis.blueprint (signatureOf config analysis.blueprint) disk = (false, asked))
      (hrender : FakeFile.generate config.fileOptions analysis.blueprint = .ok file)
      (hreplace : (FileSystem.replaceCleanly (m := StateM Disk)
        (analysis.blueprint.targetPath config.output) file.text).run asked =
          (.error fault, changed)) :
      Exit config s state disk
        (.failed (.unwritable (analysis.blueprint.targetPath config.output) fault))
        ((state.report analysis.warnings).report
          [(Failure.unwritable (analysis.blueprint.targetPath config.output) fault).diagnostic
            s.qualifiedName]) changed
  | generated {analysis : Analysis} {asked written changed : Disk} {file : FakeFile}
      {recorded : State} (ha : s.analyze = .ok analysis)
      (hasked : isUpToDate (m := StateM Disk) config (state.report analysis.warnings)
        analysis.blueprint (signatureOf config analysis.blueprint) disk = (false, asked))
      (hrender : FakeFile.generate config.fileOptions analysis.blueprint = .ok file)
      (hreplace : (FileSystem.replaceCleanly (m := StateM Disk)
        (analysis.blueprint.targetPath config.output) file.text).run asked = (.ok (), written))
      (hrecord : (state.report analysis.warnings).record (m := StateM Disk) analysis.blueprint.id
        (signatureOf config analysis.blueprint) written = (recorded, changed)) :
      Exit config s state disk (.generated (analysis.blueprint.targetPath config.output)) recorded
        changed

/-- Processing a subject ends with one of the exits. -/
theorem process_exit {config : Config} {s : Subject} {state state' : State} {disk changed : Disk}
    {outcome : Outcome}
    (h : process (m := StateM Disk) config s state disk = ((outcome, state'), changed)) :
    Exit config s state disk outcome state' changed := by
  unfold process at h
  cases ha : s.analyze with
  | error r =>
      rw [ha] at h
      obtain ⟨hresult, rfl⟩ := Prod.mk.inj h
      obtain ⟨rfl, rfl⟩ := Prod.mk.inj hresult
      exact .rejected ha
  | ok analysis =>
      rw [ha] at h
      obtain ⟨answer, asked, hasked, h⟩ := exists_of_bind h
      cases answer with
      | true =>
          rw [if_pos rfl] at h
          obtain ⟨hresult, rfl⟩ := Prod.mk.inj h
          obtain ⟨rfl, rfl⟩ := Prod.mk.inj hresult
          exact .upToDate ha hasked
      | false =>
          rw [if_neg Bool.false_ne_true] at h
          unfold write at h
          cases hrender : FakeFile.generate config.fileOptions analysis.blueprint with
          | error e =>
              simp only [hrender] at h
              obtain ⟨hresult, rfl⟩ := Prod.mk.inj h
              obtain ⟨rfl, rfl⟩ := Prod.mk.inj hresult
              exact .unrenderable ha hasked hrender
          | ok file =>
              simp only [hrender] at h
              obtain ⟨result, written, hreplace, h⟩ := exists_of_bind h
              cases result with
              | error fault =>
                  obtain ⟨hresult, rfl⟩ := Prod.mk.inj h
                  obtain ⟨rfl, rfl⟩ := Prod.mk.inj hresult
                  exact .unwritable ha hasked hrender hreplace
              | ok _ =>
                  obtain ⟨recorded, after, hrecord, h⟩ := exists_of_bind h
                  obtain ⟨hresult, rfl⟩ := Prod.mk.inj h
                  obtain ⟨rfl, rfl⟩ := Prod.mk.inj hresult
                  exact .generated ha hasked hrender hreplace hrecord

theorem reports_record {state recorded : State} {id : String} {signature : Signature}
    {disk changed : Disk}
    (h : state.record (m := StateM Disk) id signature disk = (recorded, changed)) :
    recorded.reports = state.reports := by
  unfold State.record at h
  cases hstore : state.store with
  | none =>
      rw [hstore] at h
      obtain ⟨rfl, -⟩ := Prod.mk.inj h
      rfl
  | some known =>
      rw [hstore] at h
      obtain ⟨remembered, between, -, h⟩ := exists_of_bind h
      obtain ⟨rfl, -⟩ := Prod.mk.inj h
      rfl

/-! ## Directories -/

theorem State.keeping_record (state : State) (id : String) (signature : Signature) :
    Keeping (state.record (m := StateM Disk) id signature) := by
  unfold State.record
  split
  · exact keeping_pure _
  · exact (SignatureStore.keeping_record _ id signature).bind fun _ => keeping_pure _

theorem keeping_isUpToDate (config : Config) (state : State) (b : Blueprint)
    (signature : Signature) : Keeping (isUpToDate (m := StateM Disk) config state b signature) := by
  unfold isUpToDate
  split
  · exact FileSystem.keeping_isFile _
  · exact keeping_pure _

theorem keeping_write (config : Config) (s : Subject) (state : State) (b : Blueprint)
    (signature : Signature) : Keeping (write (m := StateM Disk) config s state b signature) := by
  unfold write
  split
  · exact keeping_pure _
  · refine (FileSystem.keeping_replaceCleanly _ _).bind fun result => ?_
    split
    · exact keeping_pure _
    · exact (state.keeping_record _ signature).bind fun _ => keeping_pure _

theorem keeping_process (config : Config) (s : Subject) (state : State) :
    Keeping (process (m := StateM Disk) config s state) := by
  unfold process
  split
  · exact keeping_pure _
  · refine (keeping_isUpToDate _ _ _ _).bind fun answer => ?_
    split
    · exact keeping_pure _
    · exact keeping_write _ _ _ _ _

theorem keeping_processAll (config : Config) (subjects : List Subject) (state : State) :
    Keeping (processAll (m := StateM Disk) config subjects state) := by
  induction subjects generalizing state with
  | nil => exact keeping_pure _
  | cons s rest ih =>
      unfold processAll
      exact (keeping_process config s state).bind fun first =>
        (ih first.2).bind fun more => keeping_pure _

theorem keeping_finish (state : State) : Keeping (finish (m := StateM Disk) state) := by
  unfold finish
  split
  · exact keeping_pure _
  · exact (SignatureStore.keeping_flush _).bind fun _ => keeping_pure _

end Pass

end KotlinFakes
