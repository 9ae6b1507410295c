import KotlinFakes.Proofs.Files.Target
import KotlinFakes.Proofs.Pass.Reports
import Mathlib.Data.List.Nodup

/-!
# Accounts of a pass

What a pass has to show for each of its subjects: the file and the entry of one that was generated, the
reports about one that was passed over or failed, and that nothing of such a subject was touched. It
holds whatever operations on files are refused.
-/

namespace KotlinFakes

/-- Where the file of a subject belongs below a directory. -/
def Subject.targetPath (output : Path) (s : Subject) : Path := output.fakePath s.package s.name

namespace Pass

open Disk

/-- The digest that a store has for a declaration, if there is a store. -/
def knownDigest (store : Option SignatureStore) (id : String) : Option String :=
  store.bind fun known => known.digest? id

/-- Whether the file of a store is outside the output directory. -/
def Apart (config : Config) (home : Place) (store : Option SignatureStore) : Prop :=
  ∀ known, store = some known → ¬ config.output.place home <+: known.path.place home

/-- Whether the working directory and the file of the store are what they were. -/
structure Steady (store store' : Option SignatureStore) (disk changed : Disk) : Prop where
  home : changed.home = disk.home
  path : store'.map SignatureStore.path = store.map SignatureStore.path

/-- Whether also the file of a subject and its entry in the store are what they were. -/
structure Untouched (config : Config) (s : Subject) (store store' : Option SignatureStore)
    (disk changed : Disk) : Prop extends Steady store store' disk changed where
  file : changed.file? ((s.targetPath config.output).place disk.home) =
    disk.file? ((s.targetPath config.output).place disk.home)
  digest : knownDigest store' s.qualifiedName = knownDigest store s.qualifiedName

variable {config : Config} {s other : Subject} {store store' store'' : Option SignatureStore}
  {state state' final : State} {disk changed after : Disk} {outcome : Outcome}

namespace Steady

theorem rfl : Steady store store disk disk := ⟨Eq.refl _, Eq.refl _⟩

theorem trans (h : Steady store store' disk changed) (h' : Steady store' store'' changed after) :
    Steady store store'' disk after :=
  ⟨h'.home.trans h.home, h'.path.trans h.path⟩

theorem apart (h : Steady store store' disk changed) (happart : Apart config disk.home store) :
    Apart config changed.home store' := by
  intro known hknown
  have hpath := h.path
  rw [hknown, Option.map_some] at hpath
  obtain ⟨before, hbefore, hpath⟩ := Option.map_eq_some_iff.1 hpath.symm
  rw [h.home, ← hpath]
  exact happart before hbefore

end Steady

namespace Untouched

theorem rfl : Untouched config s store store disk disk := ⟨.rfl, Eq.refl _, Eq.refl _⟩

theorem trans (h : Untouched config s store store' disk changed)
    (h' : Untouched config s store' store'' changed after) :
    Untouched config s store store'' disk after := by
  refine ⟨h.toSteady.trans h'.toSteady, ?_, h'.digest.trans h.digest⟩
  rw [← h.file, ← h.home, h'.file]

end Untouched

/-! ## One subject -/

theorem targetPath_of_analyze {analysis : Analysis} (h : s.analyze = .ok analysis) (output : Path) :
    analysis.blueprint.targetPath output = s.targetPath output := by
  obtain ⟨supertype, properties, -, -, hb⟩ := Subject.blueprint_of_analyze h
  rw [hb]
  rfl

theorem id_of_analyze {analysis : Analysis} (h : s.analyze = .ok analysis) :
    analysis.blueprint.id = s.qualifiedName := by
  obtain ⟨supertype, properties, -, -, hb⟩ := Subject.blueprint_of_analyze h
  rw [hb]

theorem request?_spec {r : Request} (h : request? config s = some r) :
    r.path config.output = s.targetPath config.output ∧ r.id = s.qualifiedName := by
  obtain ⟨analysis, hanalysis, rfl⟩ := exists_of_request? h
  exact ⟨targetPath_of_analyze hanalysis _, id_of_analyze hanalysis⟩

theorem Step.steady (h : Step config s store disk outcome store' changed) :
    Steady store store' disk changed := by
  cases h with
  | rejected r => exact .rfl
  | upToDate hr hstore hdegraded hdigest hfiles hfile => exact ⟨hfiles.home, rfl⟩
  | failed failure hr hfiles => exact ⟨hfiles.home, rfl⟩
  | generated hr hrender hfiles hfile hrecord =>
      obtain ⟨rfl, rfl, rfl⟩ | ⟨known, remembered, rfl, rfl, hrecord⟩ := hrecord
      · exact ⟨hfiles.home, rfl⟩
      · obtain ⟨hpath, -, -, -, hcache, -⟩ := SignatureStore.record_spec hrecord
        exact ⟨hcache.home.trans hfiles.home, congrArg some hpath⟩

theorem Step.untouched (h : Step config other store disk outcome store' changed)
    (hs : IsAddress s.package s.name)
    (hother : IsAddress other.package other.name) (happart : Apart config disk.home store)
    (hne : other.qualifiedName ≠ s.qualifiedName ∨ outcome.isGenerated = false) :
    Untouched config s store store' disk changed := by
  have hsteady := h.steady
  have hsame {touched : List Place} (hfiles : SameFilesBut touched disk changed)
      (hplace : (s.targetPath config.output).place disk.home ∉ touched) :
      Untouched config s store store disk changed :=
    ⟨⟨hfiles.home, rfl⟩, hfiles.files _ hplace, rfl⟩
  cases h with
  | rejected r => exact .rfl
  | upToDate hr hstore hdegraded hdigest hfiles hfile => exact hsame hfiles List.not_mem_nil
  | failed failure hr hfiles =>
      refine hsame hfiles ?_
      rw [List.mem_singleton]
      exact hs.place_ne_draft _
  | generated hr hrender hfiles hfile hrecord =>
      have hne := hne.resolve_right (by simp [Outcome.isGenerated])
      obtain ⟨hpath, hid⟩ := request?_spec hr
      rw [hpath] at hfiles
      have hplace : (s.targetPath config.output).place disk.home ∉
          [(other.targetPath config.output).place disk.home,
            (other.targetPath config.output).draft.place disk.home] := by
        simp only [List.mem_cons, List.not_mem_nil, or_false, not_or]
        exact ⟨hs.place_ne hother hne, hs.place_ne_draft _⟩
      obtain ⟨rfl, rfl, rfl⟩ | ⟨known, remembered, rfl, rfl, hrecord⟩ := hrecord
      · exact hsame hfiles hplace
      · obtain ⟨-, -, hentries, -, hcache, -⟩ := SignatureStore.record_spec hrecord
        refine ⟨hsteady, ?_, ?_⟩
        · rw [hcache.files _ ?_, hfiles.files _ hplace]
          rw [List.mem_singleton, hfiles.home]
          intro heq
          exact happart known rfl (heq ▸ hs.prefix_place)
        · have hne : s.qualifiedName ≠ _ := hid ▸ hne.symm
          change remembered.entries.get? _ = known.entries.get? _
          rw [hentries, Entries.get?_insert, if_neg hne]

/-- Whether a subject has what a generated one has: a file with the text of its fake, and the digest of
    its signature in the store, if there is a store. -/
def Generated (config : Config) (s : Subject) (path : Path) (store : Option SignatureStore)
    (disk : Disk) : Prop :=
  ∃ analysis file, s.analyze = .ok analysis ∧
    FakeFile.generate config.fileOptions analysis.blueprint = .ok file ∧
    path = s.targetPath config.output ∧ disk.hasFile path ∧
    disk.file? (path.place disk.home) = some file.text.toUTF8 ∧
    (store.isSome → knownDigest store s.qualifiedName =
      some (signatureOf config analysis.blueprint).digest)

theorem Generated.of_untouched {path : Path} (h : Generated config s path store disk)
    (hsame : Untouched config s store store' disk changed) (hkept : KeepsDirectories disk changed) :
    Generated config s path store' changed := by
  obtain ⟨analysis, file, hanalysis, hrender, rfl, hpresent, hfile, hdigest⟩ := h
  have hfile' := hsame.file.trans hfile
  refine ⟨analysis, file, hanalysis, hrender, rfl, hkept.hasFile hpresent hfile', ?_, fun hstore => ?_⟩
  · rw [hsame.home, hfile']
  · have hisSome : store.isSome := by
      rw [← Option.isSome_map, ← hsame.path, Option.isSome_map, hstore]
    rw [hsame.digest, hdigest hisSome]

theorem generated_of_process {path : Path} (hs : IsAddress s.package s.name)
    (happart : Apart config disk.home state.store)
    (h : process (m := StateM Disk) config s state disk = ((.generated path, state'), changed)) :
    Generated config s path state'.store changed := by
  generalize houtcome : Outcome.generated path = outcome at h
  cases process_exit h with
  | rejected ha =>
      obtain ⟨_, hr⟩ | ⟨_, hr⟩ := rejectedOutcome_cases _ <;> (rw [hr] at houtcome; cases houtcome)
  | upToDate => cases houtcome
  | unrenderable => cases houtcome
  | unwritable => cases houtcome
  | @generated analysis asked written _ file _ ha hasked hrender hreplace hrecord =>
      obtain rfl := Outcome.generated.inj houtcome
      rw [targetPath_of_analyze ha] at hreplace ⊢
      have hasked := (isUpToDate_spec hasked).1
      have hreplaces := FileSystem.replaceCleanly_spec hreplace
      have hpresent := FileSystem.hasFile_of_replaceCleanly hreplace
      have hhome : written.home = disk.home := hreplaces.files.home.trans hasked.home
      have hfile := hreplaces.written rfl
      rw [← hreplaces.files.home] at hfile
      have hkept := State.keeping_record _ _ _ _ _ _ hrecord
      rw [id_of_analyze ha] at hrecord
      obtain ⟨-, hnone, rfl⟩ | ⟨known, remembered, hknown, hremembered, hrecord⟩ :=
        record_cases hrecord
      · exact ⟨analysis, file, ha, hrender, rfl, hpresent, hfile, by simp [hnone]⟩
      · obtain ⟨-, -, hentries, -, hcache, -⟩ := SignatureStore.record_spec hrecord
        have hplace : (s.targetPath config.output).place written.home ∉
            [known.path.place written.home] := by
          rw [List.mem_singleton, hhome]
          intro heq
          exact happart known hknown (heq ▸ hs.prefix_place)
        have hfile' := (hcache.files _ hplace).trans hfile
        refine ⟨analysis, file, ha, hrender, rfl, hkept.hasFile hpresent hfile', ?_, fun _ => ?_⟩
        · rw [hcache.home, hfile']
        · rw [hremembered]
          change remembered.entries.get? _ = _
          rw [hentries, Entries.get?_insert, if_pos rfl]

/-! ## Whole passes -/

theorem processAll_untouched {subjects : List Subject} {outcomes : List (String × Outcome)}
    (hs : IsAddress s.package s.name) (happart : Apart config disk.home state.store)
    (hothers : ∀ other ∈ subjects, IsAddress other.package other.name ∧
      other.qualifiedName ≠ s.qualifiedName)
    (h : processAll (m := StateM Disk) config subjects state disk = ((outcomes, state'), changed)) :
    Untouched config s state.store state'.store disk changed := by
  refine processAll_induction
    (fun _ store' changed => Untouched config s state.store store' disk changed)
    (fun other hother _ store between outcome store' changed hsame hstep => ?_) h [] .rfl
  obtain ⟨haddress, hne⟩ := hothers other hother
  exact hsame.trans (hstep.untouched hs haddress (hsame.apart happart) (.inl hne))

theorem processAll_steady {subjects : List Subject} {outcomes : List (String × Outcome)}
    (h : processAll (m := StateM Disk) config subjects state disk = ((outcomes, state'), changed)) :
    Steady state.store state'.store disk changed :=
  processAll_induction (fun _ store' changed => Steady state.store store' disk changed)
    (fun _ _ _ _ _ _ _ _ hsame hstep => hsame.trans hstep.steady) h [] .rfl

theorem finish_steady (h : finish (m := StateM Disk) state disk = (final, changed)) :
    Steady state.store final.store disk changed := by
  obtain ⟨hnone, hfinal, rfl⟩ | ⟨known, saved, result, hknown, hsaved, hflush⟩ := finish_cases h
  · rw [hnone, hfinal]
    exact .rfl
  · rw [hknown, hsaved]
    exact ⟨(SignatureStore.flush_spec hflush).1.home,
      congrArg some (SignatureStore.flush_entries hflush).1⟩

theorem finish_untouched (hs : IsAddress s.package s.name)
    (happart : Apart config disk.home state.store)
    (h : finish (m := StateM Disk) state disk = (final, changed)) :
    Untouched config s state.store final.store disk changed := by
  have hsteady := finish_steady h
  obtain ⟨hnone, hfinal, rfl⟩ | ⟨known, saved, result, hknown, hsaved, hflush⟩ := finish_cases h
  · rw [hnone, hfinal]
    exact .rfl
  · have hentries := (SignatureStore.flush_entries hflush).2
    have hfiles := (SignatureStore.flush_spec hflush).1
    refine ⟨hsteady, hfiles.files _ ?_, ?_⟩
    · simp only [List.mem_cons, List.not_mem_nil, or_false, not_or]
      exact ⟨fun heq => happart known hknown (heq ▸ hs.prefix_place), hs.place_ne_draft _⟩
    · rw [hknown, hsaved]
      exact congrArg (fun entries : Entries => entries.get? s.qualifiedName) hentries

/-- What a pass has to show for one subject, by its outcome. -/
structure Account (config : Config) (store : Option SignatureStore) (disk : Disk) (final : State)
    (changed : Disk) (s : Subject) (outcome : Outcome) : Prop where
  generated : ∀ path, outcome = .generated path → ∃ analysis file, s.analyze = .ok analysis ∧
    FakeFile.generate config.fileOptions analysis.blueprint = .ok file ∧
    path = s.targetPath config.output ∧ changed.text path = .ok file.text ∧
    (final.store.isSome → knownDigest final.store s.qualifiedName =
      some (signatureOf config analysis.blueprint).digest)
  skipped : outcome.isSkipped → ∃ d ∈ final.reports.flush,
    d.isWarning ∧ d.code.text = "F0001" ∧ d.declaration = some s.qualifiedName
  failed : outcome.isFailed ↔ ∃ d ∈ final.reports.flush,
    d.isError ∧ d.declaration = some s.qualifiedName
  kept : outcome.isSkipped ∨ outcome.isFailed → Untouched config s store final.store disk changed

/-- What a pass has to show for all its subjects: an outcome for each of them, in order, and no error
    about anything else. -/
structure Accounts (config : Config) (subjects : List Subject) (store : Option SignatureStore)
    (disk : Disk) (outcomes : List (String × Outcome)) (final : State) (changed : Disk) : Prop where
  outcomes : List.Forall₂
    (fun s entry => entry.1 = s.qualifiedName ∧ Account config store disk final changed s entry.2)
    subjects outcomes
  errors : ∀ d ∈ final.reports.flush, d.isError → ∃ s ∈ subjects, d.declaration = some s.qualifiedName
  store : final.store.map SignatureStore.path = store.map SignatureStore.path

section Accounts

variable {subjects : List Subject} {outcomes : List (String × Outcome)} {middle : Disk}

theorem mem_reports_iff
    (h : processAll (m := StateM Disk) config subjects (.start store) disk =
      ((outcomes, state), middle))
    (hfinish : finish (m := StateM Disk) state middle = (final, changed)) {d : Diagnostic}
    (hd : d.isError ∨ d.declaration ≠ none) :
    d ∈ final.reports.flush ↔ d ∈ allReports subjects outcomes := by
  obtain ⟨ds, hfinal, hwarnings⟩ := finish_reports hfinish
  have hnew : d ∉ ds := by
    intro hmem
    obtain ⟨herror, hnone⟩ := hwarnings d hmem
    obtain hd | hd := hd
    · rw [herror] at hd
      cases hd
    · exact hd hnone
  rw [DiagnosticQueue.mem_flush, hfinal, DiagnosticQueue.mem_addAll, (processAll_reports h).2,
    DiagnosticQueue.mem_addAll, or_iff_left hnew]
  exact or_iff_right List.not_mem_nil

theorem eq_of_mem_zip (hdistinct : (subjects.map Subject.qualifiedName).Nodup)
    (h : processAll (m := StateM Disk) config subjects (.start store) disk =
      ((outcomes, state), middle)) {entry entry' : Subject × String × Outcome}
    (hentry : entry ∈ subjects.zip outcomes) (hentry' : entry' ∈ subjects.zip outcomes)
    (hname : entry.1.qualifiedName = entry'.1.qualifiedName) : entry = entry' := by
  have hzipped : (subjects.zip outcomes).map Prod.fst = subjects :=
    List.map_fst_zip (Nat.le_of_eq (processAll_reports h).1.length_eq)
  rw [← hzipped, List.map_map] at hdistinct
  exact List.inj_on_of_nodup_map hdistinct hentry hentry' hname

/-- The passage of one subject through a pass: before it comes and after it has gone, the others leave
    it alone. -/
theorem exists_passage (haddress : ∀ s ∈ subjects, IsAddress s.package s.name)
    (hdistinct : (subjects.map Subject.qualifiedName).Nodup) (happart : Apart config disk.home store)
    (h : processAll (m := StateM Disk) config subjects (.start store) disk =
      ((outcomes, state), middle))
    (hfinish : finish (m := StateM Disk) state middle = (final, changed)) (hs : s ∈ subjects) :
    ∃ between reached outcome next written, (s, s.qualifiedName, outcome) ∈ subjects.zip outcomes ∧
      Untouched config s store between.store disk reached ∧
      process (m := StateM Disk) config s between reached = ((outcome, next), written) ∧
      Untouched config s next.store final.store written changed ∧
      KeepsDirectories written changed := by
  obtain ⟨before, after, rfl⟩ := List.append_of_mem hs
  obtain ⟨done, between, reached, outcome, next, written, rest, hbefore, hprocess, hafter, rfl⟩ :=
    exists_of_processAll_append h
  have hself := haddress s hs
  rw [List.map_append, List.map_cons, List.nodup_middle, List.nodup_cons, List.mem_append] at hdistinct
  have hothers {others : List Subject} (hsub : others ⊆ before ++ s :: after)
      (hnot : s.qualifiedName ∉ others.map Subject.qualifiedName) :
      ∀ other ∈ others, IsAddress other.package other.name ∧
        other.qualifiedName ≠ s.qualifiedName := fun other hother =>
    ⟨haddress other (hsub hother), fun heq => hnot (heq ▸ List.mem_map_of_mem hother)⟩
  have hfirst := processAll_untouched hself happart (hothers (by simp) (mt .inl hdistinct.1)) hbefore
  have hreached := hfirst.apart happart
  have hwritten := (process_step hprocess).steady.apart hreached
  have hrest := processAll_untouched hself hwritten (hothers (by simp) (mt .inr hdistinct.1)) hafter
  refine ⟨between, reached, outcome, next, written, ?_, hfirst, hprocess, ?_, ?_⟩
  · rw [List.zip_append (processAll_reports hbefore).1.length_eq]
    exact List.mem_append_right _ List.mem_cons_self
  · exact hrest.trans (finish_untouched hself (hrest.apart hwritten) hfinish)
  · exact (keeping_processAll _ _ _ _ _ _ hafter).trans (keeping_finish _ _ _ _ hfinish)

theorem exists_account (haddress : ∀ s ∈ subjects, IsAddress s.package s.name)
    (hdistinct : (subjects.map Subject.qualifiedName).Nodup) (happart : Apart config disk.home store)
    (h : processAll (m := StateM Disk) config subjects (.start store) disk =
      ((outcomes, state), middle))
    (hfinish : finish (m := StateM Disk) state middle = (final, changed)) (hs : s ∈ subjects) :
    ∃ outcome, (s, s.qualifiedName, outcome) ∈ subjects.zip outcomes ∧
      Account config store disk final changed s outcome := by
  obtain ⟨between, reached, outcome, next, written, hzip, hbefore, hprocess, hafter, hkept⟩ :=
    exists_passage haddress hdistinct happart h hfinish hs
  have hself := haddress s hs
  have hreached := hbefore.apart happart
  obtain ⟨hends, -⟩ := process_reports hprocess
  have hreported {d : Diagnostic} (hd : d ∈ reportsOf s outcome) : d ∈ final.reports.flush := by
    have hname := hends.declaration_eq hd
    rw [mem_reports_iff h hfinish (.inr (by simp [hname]))]
    exact List.mem_flatMap.2 ⟨_, hzip, hd⟩
  refine ⟨outcome, hzip, ?_, ?_, ?_, ?_⟩
  · rintro path rfl
    obtain ⟨analysis, file, hanalysis, hrender, rfl, hpresent, hfile, hdigest⟩ :=
      (generated_of_process hself hreached hprocess).of_untouched hafter hkept
    exact ⟨analysis, file, hanalysis, hrender, rfl, text_of_hasFile hpresent hfile, hdigest⟩
  · intro hskipped
    obtain ⟨d, hd, hwarning, hcode⟩ := hends.exists_warning_of_isSkipped hskipped
    exact ⟨d, hreported hd, hwarning, by rw [hcode]; rfl, hends.declaration_eq hd⟩
  · constructor
    · intro hfailed
      obtain ⟨d, hd, herror⟩ := hends.isFailed_iff.1 hfailed
      exact ⟨d, hreported hd, herror, hends.declaration_eq hd⟩
    · rintro ⟨d, hd, herror, hname⟩
      rw [mem_reports_iff h hfinish (.inl herror)] at hd
      obtain ⟨⟨other, name, outcome'⟩, hentry, hd⟩ := List.mem_flatMap.1 hd
      obtain ⟨-, hends'⟩ := List.forall₂_zip (processAll_reports h).1 hentry
      have hsame := Option.some.inj ((hends'.declaration_eq hd).symm.trans hname)
      have heq := eq_of_mem_zip hdistinct h hentry hzip hsame
      simp only [Prod.mk.injEq] at heq
      obtain ⟨rfl, rfl, rfl⟩ := heq
      exact hends'.isFailed_iff.2 ⟨d, hd, herror⟩
  · intro hnot
    have hnot : outcome.isGenerated = false := by
      cases outcome with
      | generated path => obtain hnot | hnot := hnot <;> cases hnot
      | upToDate | skipped | failed => rfl
    have hstep := (process_step hprocess).untouched hself hself hreached (.inr hnot)
    exact (hbefore.trans hstep).trans hafter

theorem accounts_of_processAll (haddress : ∀ s ∈ subjects, IsAddress s.package s.name)
    (hdistinct : (subjects.map Subject.qualifiedName).Nodup) (happart : Apart config disk.home store)
    (h : processAll (m := StateM Disk) config subjects (.start store) disk =
      ((outcomes, state), middle))
    (hfinish : finish (m := StateM Disk) state middle = (final, changed)) :
    Accounts config subjects store disk outcomes final changed := by
  have hall := (processAll_reports h).1
  refine ⟨?_, fun d hd herror => ?_, ?_⟩
  · refine List.forall₂_iff_zip.2 ⟨hall.length_eq, fun {s entry} hentry => ?_⟩
    obtain ⟨outcome, hzip, haccount⟩ :=
      exists_account haddress hdistinct happart h hfinish (List.of_mem_zip hentry).1
    obtain rfl := congrArg Prod.snd (eq_of_mem_zip hdistinct h hentry hzip rfl)
    exact ⟨rfl, haccount⟩
  · rw [mem_reports_iff h hfinish (.inl herror)] at hd
    obtain ⟨⟨s, entry⟩, hentry, hd⟩ := List.mem_flatMap.1 hd
    obtain ⟨-, hends⟩ := List.forall₂_zip hall hentry
    exact ⟨s, (List.of_mem_zip hentry).1, hends.declaration_eq hd⟩
  · exact ((processAll_steady h).trans (finish_steady hfinish)).path

end Accounts

/-- A pass that ends with an error has done nothing. Any other pass accounts for its subjects, whatever
    its pool, and so does one that processes them in another order. -/
theorem accounts_of_run {subjects : List Subject} {pool : Pool} {result : Except Error Report}
    (haddress : ∀ s ∈ annotated config subjects, IsAddress s.package s.name)
    (hdistinct : ((annotated config subjects).map Subject.qualifiedName).Nodup)
    (happart : Apart config disk.home store)
    (h : runWith (m := StateM Disk) (.fixed config.output) pool config store subjects disk =
      ((result, final), changed)) :
    (∀ e, result = .error e → final = .start store ∧ changed = disk) ∧
      (∀ report, result = .ok report →
        Accounts config (annotated config subjects) store disk report.outcomes final changed) ∧
      ∀ order outcomes state middle final changed, order.Perm (annotated config subjects) →
        processAll (m := StateM Disk) config order (.start store) disk =
          ((outcomes, state), middle) →
        finish (m := StateM Disk) state middle = (final, changed) →
        Accounts config order store disk outcomes final changed := by
  have hordered : ∀ order outcomes state middle final changed,
      order.Perm (annotated config subjects) →
      processAll (m := StateM Disk) config order (.start store) disk = ((outcomes, state), middle) →
      finish (m := StateM Disk) state middle = (final, changed) →
      Accounts config order store disk outcomes final changed := by
    intro order outcomes state middle final changed hperm hprocess hfinish
    have haddress' : ∀ s ∈ order, IsAddress s.package s.name :=
      fun s hs => haddress s (hperm.mem_iff.1 hs)
    have hdistinct' := (hperm.map Subject.qualifiedName).nodup_iff.2 hdistinct
    exact accounts_of_processAll haddress' hdistinct' happart hprocess hfinish
  refine ⟨?_, ?_, hordered⟩
  · rintro e rfl
    exact (runWith_eq_error_iff.1 h).2
  · rintro report rfl
    obtain ⟨e, herror, -⟩ | ⟨order, outcomes, reported, state, between, hperm, hprocess, hreport,
      hrestore, hfinish⟩ := runWith_fixed_cases h
    · cases herror
    · obtain rfl := Except.ok.inj hreport
      have haccounts := hordered order outcomes state between final changed hperm hprocess hfinish
      refine ⟨hrestore _ haccounts.outcomes, fun d hd herror => ?_, haccounts.store⟩
      obtain ⟨s, hs, hdeclaration⟩ := haccounts.errors d hd herror
      exact ⟨s, hperm.mem_iff.1 hs, hdeclaration⟩

/-- A declaration without members. -/
def bare (name : String) (shape : Shape) : Subject :=
  ⟨"app", name, shape, [], [], ["Fake"], 0, none⟩

/-- Two interfaces and an enum. -/
def bareSubjects : List Subject :=
  [bare "Clock" .interface, bare "Timer" .interface, bare "Color" .enumClass]

theorem isAddress_bareSubjects : ∀ s ∈ bareSubjects, IsAddress s.package s.name := by
  intro s hs
  obtain rfl | rfl | rfl : s = bare "Clock" .interface ∨ s = bare "Timer" .interface ∨
      s = bare "Color" .enumClass := by simpa [bareSubjects] using hs
  all_goals exact ⟨by decide, by decide⟩

def bareConfig : Config := { Config.standard with output := ⟨"out"⟩ }

def bareStore : SignatureStore := .fresh ⟨"cache"⟩ .onFlush

/-- A disk on which the third operation is refused. -/
def thirdRefused : Disk := ⟨["work"], [], [none, none, some ⟨.other "refused", none⟩]⟩

/-- A pass accounts for a subject whose draft cannot be renamed, one that is generated, and one that is
    passed over. -/
theorem accounts_of_run_bare : ∃ report final changed,
    run (m := StateM Disk) bareConfig (some bareStore) bareSubjects thirdRefused =
      ((.ok report, final), changed) ∧
    report.outcomes.map (fun entry => (entry.1, entry.2.isFailed, entry.2.isGenerated)) =
      [("app.Clock", true, false), ("app.Timer", false, true), ("app.Color", false, false)] ∧
    Accounts bareConfig bareSubjects (some bareStore) thirdRefused report.outcomes final changed := by
  have hchosen : annotated bareConfig bareSubjects = bareSubjects := rfl
  have happart : Apart bareConfig thirdRefused.home (some bareStore) := by
    intro known hknown
    obtain rfl := Option.some.inj hknown
    decide
  have hresult : (match (run (m := StateM Disk) bareConfig (some bareStore) bareSubjects
      thirdRefused).1.1 with
    | .ok report =>
      report.outcomes.map (fun entry => (entry.1, entry.2.isFailed, entry.2.isGenerated))
    | .error _ => []) =
      [("app.Clock", true, false), ("app.Timer", false, true), ("app.Color", false, false)] := by
    decide +kernel
  obtain ⟨⟨⟨result, final⟩, changed⟩, hrun⟩ : ∃ ended, run (m := StateM Disk) bareConfig
      (some bareStore) bareSubjects thirdRefused = ended := ⟨_, rfl⟩
  rw [hrun] at hresult
  cases result with
  | error e => cases hresult
  | ok report =>
      have haccounts := (accounts_of_run (hchosen ▸ isAddress_bareSubjects) (by rw [hchosen]; decide) happart
        hrun).2.1 report rfl
      exact ⟨report, final, changed, hrun, hresult, haccounts⟩

end Pass

end KotlinFakes
