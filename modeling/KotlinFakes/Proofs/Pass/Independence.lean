import KotlinFakes.Proofs.Files.Shape
import KotlinFakes.Proofs.Pass.Attempt

/-!
# Independence of declarations

In whatever order the subjects of a pass are processed, each of them ends as it would alone, and the same
is reported. The disk after some of them is the disk before them with what each of them changes alone:
where two of them change the same place, both make a directory there.
-/

namespace KotlinFakes.Pass

open Disk

/-- What subjects rely on to be independent: everything stands in a directory, no operation is refused,
    the output path goes up only from directories that are there, and the store is saved at the end, to a
    file outside the output directory. -/
structure Settled (config : Config) (store : Option SignatureStore) (disk : Disk) : Prop where
  tree : disk.IsTree
  quiet : disk.refusals = []
  firm : disk.IsFirm config.output
  apart : Apart config disk.home store
  mode : ∀ known, store = some known → known.mode = .onFlush

/-- What becomes of a subject alone. -/
def alone (config : Config) (store : Option SignatureStore) (disk : Disk) (s : Subject) :
    Outcome × Disk :=
  attempt config s (isKnown config store s) disk

/-- How far some subjects have changed a disk and a store: as each of them does alone. -/
structure Progress (config : Config) (store : Option SignatureStore) (disk : Disk)
    (done : List Subject) (store' : Option SignatureStore) (reached : Disk) : Prop where
  tree : reached.IsTree
  quiet : reached.refusals = []
  keeps : KeepsDirectories disk reached
  entries : ∃ entries, store' = store.map fun known => { known with entries := entries }
  digest : ∀ id, id ∉ done.map Subject.qualifiedName → knownDigest store' id = knownDigest store id
  unchanged : ∀ place, (∀ s ∈ done, (alone config store disk s).2.node? place = disk.node? place) →
    reached.node? place = disk.node? place
  changed : ∀ s ∈ done, ∀ place,
    (alone config store disk s).2.node? place ≠ disk.node? place →
      reached.node? place = (alone config store disk s).2.node? place

variable {config : Config} {s other : Subject} {store store' : Option SignatureStore}
  {state state' final : State} {disk reached changed : Disk} {outcome : Outcome} {done : List Subject}

theorem Settled.touches (h : Settled config store disk) (hs : IsAddress s.package s.name) :
    Touches (s.directory config.output disk.home) (Fake.fileName s.name) disk
      (alone config store disk s).2 :=
  touches_attempt hs h.tree h.firm h.quiet (isKnown config store s)

/-! ## Places of different subjects -/

theorem not_prefix_of_isOwn {output : Path} {home place : Place}
    (hs : IsAddress s.package s.name)
    (h : IsOwn (other.directory output home) (Fake.fileName other.name) place) :
    ¬ place <+: s.directory output home := by
  intro hprefix
  -- The last name of the place has a dot in it, and no name of a package has one.
  have hdot : ∃ name, '.' ∈ name.toList ∧ place = other.directory output home ++ [name] := by
    obtain rfl | rfl := h
    · exact ⟨_, by simp [Fake.fileName], rfl⟩
    · exact ⟨_, by simp [Fake.fileName], rfl⟩
  obtain ⟨name, hname, rfl⟩ := hdot
  rw [Subject.directory, Subject.directory, List.append_assoc, List.prefix_append_right_inj] at hprefix
  have hmem : name ∈ Blueprint.packageDirs s.package := hprefix.subset (by simp)
  obtain hempty | hdotted := hs.package
  · rw [hempty, Blueprint.packageDirs_empty] at hmem
    exact List.not_mem_nil hmem
  · rw [Blueprint.packageDirs_of_isDotted hdotted] at hmem
    have hvalid := List.all_eq_true.1 hdotted name hmem
    exact Identifier.not_mem_of_isValid hvalid (by decide) hname

theorem eq_of_isOwn {output : Path} {home place : Place} (hs : IsAddress s.package s.name)
    (hother : IsAddress other.package other.name)
    (h : IsOwn (s.directory output home) (Fake.fileName s.name) place)
    (h' : IsOwn (other.directory output home) (Fake.fileName other.name) place) :
    s.qualifiedName = other.qualifiedName := by
  have hfiles (heq : s.directory output home = other.directory output home)
      (hname : Fake.fileName s.name = Fake.fileName other.name) :
      s.qualifiedName = other.qualifiedName := by
    have hpackage := Blueprint.packageDirs_inj hs.package hother.package (List.append_cancel_left heq)
    rw [Subject.qualifiedName, hpackage, Blueprint.fileName_inj hname]
    rfl
  obtain rfl | rfl := h
  · obtain heq | heq := h'
    · obtain ⟨hdirectory, hlast⟩ := List.append_inj' heq rfl
      exact hfiles hdirectory (List.cons.inj hlast).1
    · have hlast := (List.append_inj' heq rfl).2
      exact absurd (List.cons.inj hlast).1 (Blueprint.fileName_ne_draft _ _)
  · obtain heq | heq := h'
    · have hlast := (List.append_inj' heq rfl).2
      exact absurd (List.cons.inj hlast).1.symm (Blueprint.fileName_ne_draft _ _)
    · obtain ⟨hdirectory, hlast⟩ := List.append_inj' heq rfl
      exact hfiles hdirectory ((String.append_left_inj _).1 (List.cons.inj hlast).1)

theorem eq_of_changed (hsettled : Settled config store disk) (hs : IsAddress s.package s.name)
    (hother : IsAddress other.package other.name) (hne : s.qualifiedName ≠ other.qualifiedName)
    {place : Place} (h : (alone config store disk s).2.node? place ≠ disk.node? place)
    (h' : (alone config store disk other).2.node? place ≠ disk.node? place) :
    (alone config store disk s).2.node? place = (alone config store disk other).2.node? place := by
  obtain ⟨-, hmade, hprefix⟩ | hown := (hsettled.touches hs).changes place h
  · obtain ⟨-, hmade', -⟩ | hown' := (hsettled.touches hother).changes place h'
    · exact hmade.trans hmade'.symm
    · exact absurd hprefix (not_prefix_of_isOwn hs hown')
  · obtain ⟨-, -, hprefix'⟩ | hown' := (hsettled.touches hother).changes place h'
    · exact absurd hprefix' (not_prefix_of_isOwn hother hown)
    · exact absurd (eq_of_isOwn hs hother hown hown') hne

/-! ## One more subject -/

theorem progress_start (h : Settled config store disk) : Progress config store disk [] store disk where
  tree := h.tree
  quiet := h.quiet
  keeps := .rfl
  entries := exists_entries store
  digest _ _ := rfl
  unchanged _ _ := rfl
  changed := nofun

namespace Progress

theorem exists_changed (h : Progress config store disk done store' reached) {place : Place}
    (hne : reached.node? place ≠ disk.node? place) :
    ∃ s ∈ done, (alone config store disk s).2.node? place ≠ disk.node? place ∧
      reached.node? place = (alone config store disk s).2.node? place := by
  by_contra hnone
  refine hne (h.unchanged place fun s hs => ?_)
  by_contra hs'
  exact hnone ⟨s, hs, hs', h.changed s hs place hs'⟩

theorem isKnown (h : Progress config store disk done store' reached)
    (hs : s.qualifiedName ∉ done.map Subject.qualifiedName) :
    isKnown config store' s = isKnown config store s := by
  obtain ⟨entries, hentries⟩ := h.entries
  exact isKnown_congr hentries (h.digest _ hs)

theorem ahead (h : Progress config store disk done store' reached) (hsettled : Settled config store disk)
    (hs : IsAddress s.package s.name)
    (hdone : ∀ other ∈ done, IsAddress other.package other.name ∧
      other.qualifiedName ≠ s.qualifiedName) :
    Ahead (s.directory config.output disk.home) (Fake.fileName s.name) disk reached := by
  have hchanges {other : Subject} (hother : other ∈ done) :=
    (hsettled.touches (hdone other hother).1).changes
  refine ⟨h.keeps.home, fun place hprefix => ?_, fun place hown => ?_⟩
  · by_cases hne : reached.node? place = disk.node? place
    · exact .inl hne
    · obtain ⟨other, hother, hchanged, hreached⟩ := h.exists_changed hne
      obtain ⟨hnone, hmade, -⟩ | hown := hchanges hother place hchanged
      · exact .inr ⟨hnone, hreached.trans hmade⟩
      · exact absurd hprefix (not_prefix_of_isOwn hs hown)
  · by_contra hne
    obtain ⟨other, hother, hchanged, -⟩ := h.exists_changed hne
    obtain ⟨-, -, hprefix⟩ | hown' := hchanges hother place hchanged
    · exact not_prefix_of_isOwn (hdone other hother).1 hown hprefix
    · exact (hdone other hother).2 (eq_of_isOwn (hdone other hother).1 hs hown' hown)

theorem step (h : Progress config store disk done state.store reached)
    (hsettled : Settled config store disk) (hs : IsAddress s.package s.name)
    (hdone : ∀ other ∈ done, IsAddress other.package other.name ∧
      other.qualifiedName ≠ s.qualifiedName)
    (hprocess : process (m := StateM Disk) config s state reached = ((outcome, state'), changed)) :
    outcome = (alone config store disk s).1 ∧
      Progress config store disk (done ++ [s]) state'.store changed := by
  obtain ⟨entries, hentries⟩ := h.entries
  have hmode := onFlush_of_entries hentries hsettled.mode
  have hnot : s.qualifiedName ∉ done.map Subject.qualifiedName := by
    intro hmem
    obtain ⟨other, hother, hname⟩ := List.mem_map.1 hmem
    exact (hdone other hother).2 hname
  have hattempt := attempt_of_process h.quiet hmode hprocess
  obtain ⟨⟨entries', hentries'⟩, hdigest⟩ := store_of_process hmode hprocess
  rw [h.isKnown hnot] at hattempt
  have htouches := touches_attempt hs h.tree (h.keeps.isFirm hsettled.firm) h.quiet
    (Pass.isKnown config store s)
  obtain ⟨houtcome, hrepeats⟩ := attempt_repeats hs hsettled.tree hsettled.firm hsettled.quiet h.tree
    h.quiet h.keeps (h.ahead hsettled hs hdone) (Pass.isKnown config store s)
  rw [hattempt] at houtcome hrepeats htouches
  refine ⟨houtcome, htouches.tree, htouches.quiet, h.keeps.trans htouches.keeps, ?_, ?_, ?_, ?_⟩
  · rw [hentries', hentries, Option.map_map]
    exact ⟨entries', rfl⟩
  · intro id hid
    rw [List.map_append, List.mem_append, not_or] at hid
    exact (hdigest id (by simpa using hid.2)).trans (h.digest id hid.1)
  · intro place hsame
    have hreached := h.unchanged place fun other hother => hsame other (List.mem_append_left _ hother)
    exact (hrepeats.same place hreached).trans (hsame s (by simp))
  · intro other hother place hne
    obtain hother | hother := List.mem_append.1 hother
    · have hreached := h.changed other hother place hne
      rw [hrepeats.kept place (hreached ▸ hne), hreached]
    · obtain rfl := List.mem_singleton.1 hother
      by_cases hreached : reached.node? place = disk.node? place
      · exact hrepeats.same place hreached
      · -- Another subject has been there, so what both make is a directory.
        obtain ⟨earlier, hearlier, hchanged, hsame⟩ := h.exists_changed hreached
        rw [hrepeats.kept place hreached, hsame]
        exact eq_of_changed hsettled (hdone earlier hearlier).1 hs (hdone earlier hearlier).2 hchanged hne

theorem node?_own (h : Progress config store disk done store' reached)
    (hsettled : Settled config store disk) (haddress : ∀ s ∈ done, IsAddress s.package s.name)
    (hdistinct : (done.map Subject.qualifiedName).Nodup) (hs : s ∈ done) {place : Place}
    (hown : IsOwn (s.directory config.output disk.home) (Fake.fileName s.name) place) :
    reached.node? place = (alone config store disk s).2.node? place := by
  by_cases hsame : (alone config store disk s).2.node? place = disk.node? place
  · rw [hsame]
    by_contra hne
    obtain ⟨other, hother, hchanged, -⟩ := h.exists_changed hne
    obtain ⟨-, -, hprefix⟩ | hown' :=
      (hsettled.touches (haddress other hother)).changes place hchanged
    · exact not_prefix_of_isOwn (haddress other hother) hown hprefix
    · have hname := eq_of_isOwn (haddress s hs) (haddress other hother) hown hown'
      obtain rfl := List.inj_on_of_nodup_map hdistinct hs hother hname
      exact hchanged hsame
  · exact h.changed s hs place hsame

theorem unique {done' : List Subject} {store'' : Option SignatureStore} {reached' : Disk}
    (h : Progress config store disk done store' reached)
    (h' : Progress config store disk done' store'' reached') (hmem : ∀ s, s ∈ done ↔ s ∈ done')
    (place : Place) : reached'.node? place = reached.node? place := by
  by_cases hne : reached.node? place = disk.node? place
  · rw [hne]
    refine h'.unchanged place fun s hs => ?_
    by_contra hchanged
    exact hchanged ((h.changed s ((hmem s).2 hs) place hchanged).symm.trans hne)
  · obtain ⟨s, hs, hchanged, hsame⟩ := h.exists_changed hne
    rw [hsame, h'.changed s ((hmem s).1 hs) place hchanged]

theorem sameFilesBut (h : Progress config store disk done store' reached)
    (hsettled : Settled config store disk) (haddress : ∀ s ∈ done, IsAddress s.package s.name) :
    SameFilesBut (done.flatMap fun s => [(s.targetPath config.output).place disk.home,
      (s.targetPath config.output).draft.place disk.home]) disk reached := by
  refine ⟨h.keeps.home, fun place hplace => ?_⟩
  by_cases hne : reached.node? place = disk.node? place
  · rw [file?, file?, hne]
  · obtain ⟨s, hs, hchanged, hsame⟩ := h.exists_changed hne
    obtain ⟨hnone, hmade, -⟩ | hown := (hsettled.touches (haddress s hs)).changes place hchanged
    · have hdirectory : reached.node? place = some .directory := hsame.trans hmade
      rw [file?, file?, hdirectory, hnone]
    · refine absurd (List.mem_flatMap.2 ⟨s, hs, ?_⟩) hplace
      rw [Subject.targetPath, (haddress s hs).place_fakePath, (haddress s hs).place_draft_fakePath]
      simpa [IsOwn, Subject.directory] using hown

end Progress

/-! ## Whole passes -/

section Passes

variable {order order' rest : List Subject} {outcomes outcomes' : List (String × Outcome)}
  {middle middle' changed' : Disk} {final' : State}

/-- A list of subjects ends as each of them does alone. -/
theorem progress_of_processAll (hsettled : Settled config store disk)
    (haddress : ∀ s ∈ done ++ rest, IsAddress s.package s.name)
    (hdistinct : ((done ++ rest).map Subject.qualifiedName).Nodup)
    (hprogress : Progress config store disk done state.store reached)
    (h : processAll (m := StateM Disk) config rest state reached = ((outcomes, state'), changed)) :
    outcomes = rest.map (fun s => (s.qualifiedName, (alone config store disk s).1)) ∧
      Progress config store disk (done ++ rest) state'.store changed := by
  induction rest generalizing done state reached outcomes with
  | nil =>
      obtain ⟨hresult, rfl⟩ := Prod.mk.inj h
      obtain ⟨rfl, rfl⟩ := Prod.mk.inj hresult
      rw [List.append_nil]
      exact ⟨rfl, hprogress⟩
  | cons s rest ih =>
      obtain ⟨outcome, between, written, more, hprocess, hrest, rfl⟩ := exists_of_processAll_cons h
      have hothers : ∀ other ∈ done, IsAddress other.package other.name ∧
          other.qualifiedName ≠ s.qualifiedName := by
        intro other hother
        refine ⟨haddress other (List.mem_append_left _ hother), fun heq => ?_⟩
        rw [List.map_append, List.nodup_append] at hdistinct
        exact hdistinct.2.2 _ (List.mem_map_of_mem hother) _ (by simp) heq
      obtain ⟨rfl, hnext⟩ := hprogress.step hsettled (haddress s (by simp)) hothers hprocess
      rw [List.append_cons] at haddress hdistinct ⊢
      obtain ⟨rfl, hall⟩ := ih haddress hdistinct hnext hrest
      exact ⟨rfl, hall⟩

theorem progress_of_start (hsettled : Settled config store disk)
    (haddress : ∀ s ∈ order, IsAddress s.package s.name)
    (hdistinct : (order.map Subject.qualifiedName).Nodup)
    (h : processAll (m := StateM Disk) config order (.start store) disk =
      ((outcomes, state), middle)) :
    outcomes = order.map (fun s => (s.qualifiedName, (alone config store disk s).1)) ∧
      Progress config store disk order state.store middle := by
  rw [← List.nil_append order] at haddress hdistinct
  exact progress_of_processAll hsettled haddress hdistinct (progress_start hsettled) h

/-- A pass that processes subjects in some order and then saves its store. -/
def Completes (config : Config) (store : Option SignatureStore) (disk : Disk) (order : List Subject)
    (outcomes : List (String × Outcome)) (middle : Disk) (final : State) (changed : Disk) : Prop :=
  ∃ state, processAll (m := StateM Disk) config order (.start store) disk =
      ((outcomes, state), middle) ∧
    finish (m := StateM Disk) state middle = (final, changed)

theorem exists_completes (config : Config) (store : Option SignatureStore) (disk : Disk)
    (order : List Subject) : ∃ middle final changed,
      Completes config store disk order
        (processAll (m := StateM Disk) config order (.start store) disk).1.1 middle final changed :=
  ⟨_, _, _, _, rfl, rfl⟩

theorem exists_report (houtput : config.output.text ≠ "") (pool : Pool) (store : Option SignatureStore)
    (subjects : List Subject) (disk : Disk) : ∃ report final changed,
      runWith (m := StateM Disk) (.fixed config.output) pool config store subjects disk =
        ((.ok report, final), changed) := by
  refine exists_report_iff.2 ?_
  obtain hplace | ⟨hempty, -⟩ := Locator.place_fixed_cases config.output (annotated config subjects)
  · exact ⟨_, hplace⟩
  · exact absurd hempty houtput

theorem completes_of_run {subjects : List Subject} {report : Report}
    (h : run (m := StateM Disk) config store subjects disk = ((.ok report, final), changed)) :
    ∃ middle, Completes config store disk (annotated config subjects) report.outcomes middle final
      changed := by
  obtain ⟨e, herror, -⟩ | ⟨outcomes, state, middle, hprocess, hreport, hfinish⟩ := run_cases h
  · cases herror
  · obtain rfl := Except.ok.inj hreport
    exact ⟨middle, state, hprocess, hfinish⟩

/-- The digest of a subject in the store after a pass. -/
def digestAfter (config : Config) (store : Option SignatureStore) (s : Subject) (outcome : Outcome) :
    Option String :=
  if outcome.isGenerated then
    if store.isSome then (request? config s).map fun r => r.signature.digest else none
  else knownDigest store s.qualifiedName

theorem digest_of_step (h : Step config s store disk outcome store' changed) :
    knownDigest store' s.qualifiedName = digestAfter config store s outcome := by
  unfold digestAfter
  cases h with
  | rejected r =>
      obtain ⟨_, hr⟩ | ⟨_, hr⟩ := rejectedOutcome_cases r <;> rw [hr] <;> rfl
  | upToDate hr hstore hdegraded hdigest hfiles hfile => rfl
  | failed failure hr hfiles => rfl
  | generated hr hrender hfiles hfile hrecord =>
      obtain ⟨rfl, rfl, -⟩ | ⟨known, remembered, rfl, rfl, hrecord⟩ := hrecord
      · rfl
      · obtain ⟨-, -, hentries, -⟩ := SignatureStore.record_spec hrecord
        change remembered.entries.get? _ = _
        rw [hentries, ← (request?_spec hr).2, Entries.get?_insert, if_pos rfl]
        simp [Outcome.isGenerated, hr]

/-- What a pass has done: every subject ends as it does alone, also where its file and its digest are
    concerned. -/
theorem completes_spec (hsettled : Settled config store disk)
    (haddress : ∀ s ∈ order, IsAddress s.package s.name)
    (hdistinct : (order.map Subject.qualifiedName).Nodup)
    (h : Completes config store disk order outcomes middle final changed) :
    outcomes = order.map (fun s => (s.qualifiedName, (alone config store disk s).1)) ∧
      (∃ store', Progress config store disk order store' middle) ∧
      ∀ s ∈ order, changed.file? ((s.targetPath config.output).place disk.home) =
          (alone config store disk s).2.file? ((s.targetPath config.output).place disk.home) ∧
        knownDigest final.store s.qualifiedName =
          digestAfter config store s (alone config store disk s).1 := by
  obtain ⟨state, hprocess, hfinish⟩ := h
  obtain ⟨rfl, hprogress⟩ := progress_of_start hsettled haddress hdistinct hprocess
  refine ⟨rfl, ⟨_, hprogress⟩, fun s hs => ⟨?_, ?_⟩⟩
  · have hsteady := processAll_steady hprocess
    have hkept := (finish_untouched (haddress s hs) (hsteady.apart hsettled.apart) hfinish).file
    rw [hsteady.home] at hkept
    have hown : IsOwn (s.directory config.output disk.home) (Fake.fileName s.name)
        ((s.targetPath config.output).place disk.home) := .inl (haddress s hs).place_fakePath
    rw [hkept, file?, file?, hprogress.node?_own hsettled haddress hdistinct hs hown]
  · obtain ⟨between, reached, outcome, next, written, hzip, hbefore, hstep, hafter, -⟩ :=
      exists_passage haddress hdistinct hsettled.apart hprocess hfinish hs
    rw [← List.map_prod_left_eq_zip] at hzip
    obtain ⟨other, -, heq⟩ := List.mem_map.1 hzip
    simp only [Prod.mk.injEq] at heq
    obtain ⟨rfl, -, rfl⟩ := heq
    have hisSome : between.store.isSome = store.isSome := by
      rw [← Option.isSome_map (f := SignatureStore.path), hbefore.path, Option.isSome_map]
    rw [hafter.digest, digest_of_step (process_step hstep), digestAfter, digestAfter, hisSome,
      hbefore.digest]

theorem flush_alike (known : SignatureStore) (entries entries' : Entries)
    (hshape : SameShape middle middle') :
    (SignatureStore.flush (m := StateM Disk) { known with entries := entries' } middle').1.1 =
      (SignatureStore.flush (m := StateM Disk) { known with entries := entries } middle).1.1 := by
  have hreplace := (FileSystem.alike_replaceText known.path entries.render entries'.render _ _
    hshape).1
  unfold SignatureStore.flush
  cases known.mode with
  | perEntry => rfl
  | onFlush =>
      cases hdone : (FileSystem.replaceText (m := StateM Disk) known.path entries.render).run middle with
      | mk result written =>
          cases hdone' : (FileSystem.replaceText (m := StateM Disk) known.path entries'.render).run
              middle' with
          | mk result' written' =>
              rw [hdone, hdone'] at hreplace
              obtain rfl : result' = result := hreplace
              simp only [bind, StateT.bind, hdone, hdone']
              cases result' <;> rfl

theorem finish_alike {entries entries' : Entries}
    (hstore : state.store = store.map fun known => { known with entries := entries })
    (hstore' : state'.store = store.map fun known => { known with entries := entries' })
    (hshape : SameShape middle middle')
    (h : finish (m := StateM Disk) state middle = (final, changed))
    (h' : finish (m := StateM Disk) state' middle' = (final', changed')) :
    ∃ ds, final.reports = state.reports.addAll ds ∧ final'.reports = state'.reports.addAll ds := by
  unfold finish at h h'
  rw [hstore] at h
  rw [hstore'] at h'
  cases store with
  | none =>
      obtain ⟨rfl, -⟩ := Prod.mk.inj h
      obtain ⟨rfl, -⟩ := Prod.mk.inj h'
      exact ⟨[], rfl, rfl⟩
  | some known =>
      have hflush := flush_alike { known with errors := [] } entries entries' hshape
      obtain ⟨⟨saved, last⟩, between, hsaved, h⟩ := exists_of_bind h
      obtain ⟨⟨saved', last'⟩, between', hsaved', h'⟩ := exists_of_bind h'
      obtain rfl : saved' = saved := by
        have hfirst := congrArg (fun ended => ended.1.1) hsaved
        have hsecond := congrArg (fun ended => ended.1.1) hsaved'
        exact hsecond.symm.trans (hflush.trans hfirst)
      obtain ⟨rfl, -⟩ := Prod.mk.inj h
      obtain ⟨rfl, -⟩ := Prod.mk.inj h'
      exact ⟨_, rfl, rfl⟩

theorem flatMap_perm {f : Subject → List Diagnostic} (hperm : order.Perm order')
    (hdistinct : (order.map Subject.qualifiedName).Nodup)
    (hf : ∀ s t, s.qualifiedName ≠ t.qualifiedName → f s = [] ∨ f t = []) :
    order.flatMap f = order'.flatMap f := by
  induction hperm with
  | nil => rfl
  | cons s _ ih =>
      rw [List.flatMap_cons, List.flatMap_cons, ih (List.nodup_cons.1 hdistinct).2]
  | swap s t rest =>
      have hne : t.qualifiedName ≠ s.qualifiedName := by
        intro heq
        simp [heq] at hdistinct
      rw [List.flatMap_cons, List.flatMap_cons, List.flatMap_cons, List.flatMap_cons]
      obtain hnil | hnil := hf t s hne <;> simp [hnil]
  | trans hfirst _ ih ih' =>
      rw [ih hdistinct, ih' ((hfirst.map _).nodup_iff.1 hdistinct)]

theorem flush_of_perm (hsettled : Settled config store disk)
    (haddress : ∀ s ∈ order, IsAddress s.package s.name)
    (hdistinct : (order.map Subject.qualifiedName).Nodup) (hperm : order.Perm order')
    (h : Completes config store disk order outcomes middle final changed)
    (h' : Completes config store disk order' outcomes' middle' final' changed') :
    final'.reports.flush = final.reports.flush := by
  have haddress' : ∀ s ∈ order', IsAddress s.package s.name :=
    fun s hs => haddress s (hperm.mem_iff.2 hs)
  have hdistinct' := (hperm.map Subject.qualifiedName).nodup_iff.1 hdistinct
  obtain ⟨state, hprocess, hfinish⟩ := h
  obtain ⟨state', hprocess', hfinish'⟩ := h'
  obtain ⟨rfl, hprogress⟩ := progress_of_start hsettled haddress hdistinct hprocess
  obtain ⟨rfl, hprogress'⟩ := progress_of_start hsettled haddress' hdistinct' hprocess'
  have hshape : SameShape middle middle' := by
    refine ⟨hprogress'.keeps.home.trans hprogress.keeps.home.symm,
      hprogress'.quiet.trans hprogress.quiet.symm, fun place => ?_⟩
    rw [hprogress.unique hprogress' (fun s => hperm.mem_iff) place]
  obtain ⟨entries, hstore⟩ := hprogress.entries
  obtain ⟨entries', hstore'⟩ := hprogress'.entries
  obtain ⟨ds, hreports, hreports'⟩ := finish_alike hstore hstore' hshape hfinish hfinish'
  rw [hreports, hreports', (processAll_reports hprocess).2, (processAll_reports hprocess').2,
    allReports_map, allReports_map, ← DiagnosticQueue.addAll_append, ← DiagnosticQueue.addAll_append]
  refine DiagnosticQueue.flush_addAll fun declaration => ?_
  rw [List.filter_append, List.filter_append, List.filter_flatMap, List.filter_flatMap]
  refine congrArg (· ++ _) (flatMap_perm hperm hdistinct fun s t hne => ?_).symm
  -- Only one of two subjects can be reported about under the name.
  by_cases hs : some s.qualifiedName = declaration
  · exact .inr ((ends_attempt _).filter_reports_eq_nil fun ht => hne (Option.some.inj (hs.trans ht.symm)))
  · exact .inl ((ends_attempt _).filter_reports_eq_nil hs)

theorem exists_run_single (houtput : config.output.text ≠ "") (hquiet : disk.refusals = [])
    (hmode : ∀ known, store = some known → known.mode = .onFlush) (hself : annotated config [s] = [s]) :
    ∃ final changed, run (m := StateM Disk) config store [s] disk =
      ((.ok ⟨[(s.qualifiedName, (alone config store disk s).1)]⟩, final), changed) := by
  obtain ⟨⟨outcomes⟩, final, changed, hrun⟩ := exists_report houtput .inOrder store [s] disk
  obtain ⟨middle, state, hprocess, -⟩ := completes_of_run hrun
  rw [hself] at hprocess
  obtain ⟨between, more, -, -, rfl, hnil⟩ := attempt_of_processAll hquiet hmode hprocess
  obtain rfl := (Prod.mk.inj (Prod.mk.inj hnil).1).1
  exact ⟨final, changed, hrun⟩

theorem exists_run_pair (houtput : config.output.text ≠ "") (hquiet : disk.refusals = [])
    (hquiet' : (alone config store disk s).2.refusals = [])
    (hmode : ∀ known, store = some known → known.mode = .onFlush)
    (hboth : annotated config [s, other] = [s, other]) (hne : other.qualifiedName ≠ s.qualifiedName) :
    ∃ final changed, run (m := StateM Disk) config store [s, other] disk =
      ((.ok ⟨[(s.qualifiedName, (alone config store disk s).1), (other.qualifiedName,
        (attempt config other (isKnown config store other) (alone config store disk s).2).1)]⟩,
          final), changed) := by
  obtain ⟨⟨outcomes⟩, final, changed, hrun⟩ := exists_report houtput .inOrder store [s, other] disk
  obtain ⟨middle, state, hprocess, -⟩ := completes_of_run hrun
  rw [hboth] at hprocess
  obtain ⟨between, more, ⟨entries, hentries⟩, hdigest, rfl, hrest⟩ :=
    attempt_of_processAll hquiet hmode hprocess
  obtain ⟨last, more, -, -, rfl, hnil⟩ :=
    attempt_of_processAll hquiet' (onFlush_of_entries hentries hmode) hrest
  obtain rfl := (Prod.mk.inj (Prod.mk.inj hnil).1).1
  rw [isKnown_congr hentries (hdigest _ hne)] at hrun
  exact ⟨final, changed, hrun⟩

/-- A run is the same with every pool, but for the order in which it comes to its subjects. -/
theorem exists_run_pooled {subjects : List Subject} (hsettled : Settled config store disk)
    (haddress : ∀ s ∈ annotated config subjects, IsAddress s.package s.name)
    (hdistinct : ((annotated config subjects).map Subject.qualifiedName).Nodup)
    (houtput : config.output.text ≠ "") (pool : Pool) :
    ∃ order outcomes middle final changed, order.Perm (annotated config subjects) ∧
      Completes config store disk order outcomes middle final changed ∧
      runWith (m := StateM Disk) (.fixed config.output) pool config store subjects disk =
        ((.ok ⟨(annotated config subjects).map fun s =>
          (s.qualifiedName, (alone config store disk s).1)⟩, final), changed) := by
  obtain ⟨report, final, changed, hrun⟩ := exists_report houtput pool store subjects disk
  obtain ⟨e, herror, -⟩ | ⟨order, outcomes, reported, state, middle, hperm, hprocess, hreport, hrestore,
    hfinish⟩ := runWith_fixed_cases hrun
  · cases herror
  obtain rfl := Except.ok.inj hreport
  have haddress' : ∀ s ∈ order, IsAddress s.package s.name :=
    fun s hs => haddress s (hperm.mem_iff.1 hs)
  have hdistinct' := (hperm.map Subject.qualifiedName).nodup_iff.2 hdistinct
  obtain ⟨rfl, -⟩ := progress_of_start hsettled haddress' hdistinct' hprocess
  have hreported : List.Forall₂
      (fun s entry => (s.qualifiedName, (alone config store disk s).1) = entry)
      (annotated config subjects) reported :=
    hrestore _ (List.forall₂_map_right_iff.2 (List.forall₂_same.2 fun _ _ => rfl))
  rw [← List.forall₂_map_left_iff (R := Eq), List.forall₂_eq_eq_eq] at hreported
  exact ⟨order, _, middle, final, changed, hperm, ⟨state, hprocess, hfinish⟩, hreported ▸ hrun⟩

/-- In whatever order subjects are processed, each of them ends as it does in a run of its own, with the
    same file and the same digest. No file but theirs is touched before the store is saved, and the same
    is reported. A whole run comes to the same outcomes, in the order of its subjects, with every
    pool. -/
theorem ends_as_alone {subjects : List Subject} (hsettled : Settled config store disk)
    (haddress : ∀ s ∈ annotated config subjects, IsAddress s.package s.name)
    (hdistinct : ((annotated config subjects).map Subject.qualifiedName).Nodup)
    (hperm : order.Perm (annotated config subjects)) (houtput : config.output.text ≠ "")
    (h : Completes config store disk order outcomes middle final changed) :
    (outcomes.map Prod.fst = order.map Subject.qualifiedName ∧
      ∀ s ∈ order, ∃ outcome final₁ changed₁,
        run (m := StateM Disk) config store [s] disk =
          ((.ok ⟨[(s.qualifiedName, outcome)]⟩, final₁), changed₁) ∧
        (s.qualifiedName, outcome) ∈ outcomes ∧
        changed.file? ((s.targetPath config.output).place disk.home) =
          changed₁.file? ((s.targetPath config.output).place disk.home) ∧
        knownDigest final.store s.qualifiedName = knownDigest final₁.store s.qualifiedName) ∧
      SameFilesBut (order.flatMap fun s => [(s.targetPath config.output).place disk.home,
        (s.targetPath config.output).draft.place disk.home]) disk middle ∧
      (∀ order' outcomes' middle' final' changed', order'.Perm (annotated config subjects) →
        Completes config store disk order' outcomes' middle' final' changed' →
        final'.reports.flush = final.reports.flush) ∧
      ∀ pool, ∃ report final' changed',
        runWith (m := StateM Disk) (.fixed config.output) pool config store subjects disk =
          ((.ok report, final'), changed') ∧
        report.outcomes.map Prod.fst = (annotated config subjects).map Subject.qualifiedName ∧
        report.outcomes.Perm outcomes ∧ final'.reports.flush = final.reports.flush := by
  have haddress' : ∀ s ∈ order, IsAddress s.package s.name :=
    fun s hs => haddress s (hperm.mem_iff.1 hs)
  have hdistinct' := (hperm.map Subject.qualifiedName).nodup_iff.2 hdistinct
  obtain ⟨rfl, ⟨store', hprogress⟩, hends⟩ := completes_spec hsettled haddress' hdistinct' h
  have hreports : ∀ order' outcomes' middle' final' changed',
      order'.Perm (annotated config subjects) →
      Completes config store disk order' outcomes' middle' final' changed' →
      final'.reports.flush = final.reports.flush := by
    intro order' outcomes' middle' final' changed' hperm' h'
    exact flush_of_perm hsettled haddress' hdistinct' (hperm.trans hperm'.symm) h h'
  refine ⟨⟨?_, ?_⟩, hprogress.sameFilesBut hsettled haddress', hreports, fun pool => ?_⟩
  · rw [List.map_map]
    rfl
  · intro s hs
    have hself : annotated config [s] = [s] :=
      List.filter_eq_self.2 (by simpa using (List.mem_filter.1 (hperm.mem_iff.1 hs)).2)
    obtain ⟨final₁, changed₁, hrun⟩ :=
      exists_run_single houtput hsettled.quiet hsettled.mode hself
    obtain ⟨middle₁, hcompletes⟩ := completes_of_run hrun
    rw [hself] at hcompletes
    have haddress₁ : ∀ other ∈ [s], IsAddress other.package other.name := by
      intro other hother
      rw [List.mem_singleton.1 hother]
      exact haddress' s hs
    obtain ⟨-, -, hends₁⟩ := completes_spec hsettled haddress₁ (by simp) hcompletes
    obtain ⟨hfile, hdigest⟩ := hends s hs
    obtain ⟨hfile₁, hdigest₁⟩ := hends₁ s (by simp)
    refine ⟨_, final₁, changed₁, hrun, ?_, hfile.trans hfile₁.symm, hdigest.trans hdigest₁.symm⟩
    exact List.mem_map.2 ⟨s, hs, rfl⟩
  · obtain ⟨order', outcomes', middle', final', changed', hperm', hcompletes, hrun⟩ :=
      exists_run_pooled hsettled haddress hdistinct houtput pool
    refine ⟨_, final', changed', hrun, ?_, hperm.symm.map _,
      hreports order' outcomes' middle' final' changed' hperm' hcompletes⟩
    rw [List.map_map]
    rfl

end Passes

theorem settled_bare : Settled bareConfig (some bareStore) (.empty ["work"]) where
  tree := isTree_of_nodes nofun
  quiet := rfl
  firm := isFirm_of_not_mem (by decide) _
  apart known hknown := by
    obtain rfl := Option.some.inj hknown
    decide
  mode known hknown := by
    obtain rfl := Option.some.inj hknown
    rfl

/-- Two interfaces and an enum, the last one first, end as they do alone. -/
theorem ends_as_alone_bare : ∃ outcomes middle final changed,
    Completes bareConfig (some bareStore) (.empty ["work"]) bareSubjects.reverse outcomes middle final
      changed ∧
    outcomes.map (fun entry => (entry.1, entry.2.isGenerated)) =
      [("app.Color", false), ("app.Timer", true), ("app.Clock", true)] ∧
    ∀ s ∈ bareSubjects, ∃ outcome final₁ changed₁,
      run (m := StateM Disk) bareConfig (some bareStore) [s] (.empty ["work"]) =
        ((.ok ⟨[(s.qualifiedName, outcome)]⟩, final₁), changed₁) ∧
      (s.qualifiedName, outcome) ∈ outcomes ∧
      changed.file? ((s.targetPath bareConfig.output).place ["work"]) =
        changed₁.file? ((s.targetPath bareConfig.output).place ["work"]) ∧
      knownDigest final.store s.qualifiedName = knownDigest final₁.store s.qualifiedName := by
  have hchosen : annotated bareConfig bareSubjects = bareSubjects := rfl
  obtain ⟨middle, final, changed, hcompletes⟩ :=
    exists_completes bareConfig (some bareStore) (.empty ["work"]) bareSubjects.reverse
  refine ⟨_, middle, final, changed, hcompletes, by decide +kernel, fun s hs => ?_⟩
  exact (ends_as_alone settled_bare (hchosen ▸ isAddress_bareSubjects) (by rw [hchosen]; decide)
    (hchosen ▸ bareSubjects.reverse_perm) (by decide) hcompletes).1.2 s (List.mem_reverse.2 hs)

/-- A store that knows a subject. -/
def knowing (config : Config) (s : Subject) : SignatureStore :=
  match request? config s with
  | some r => bareStore.remember s.qualifiedName r.signature
  | none => bareStore

/-- An output path that goes up from a directory that is not there yet. -/
def upwardConfig : Config := { Config.standard with output := ⟨"m/../out"⟩ }

/-- A disk that has the file of an interface `Timer`. -/
def timerDisk : Disk where
  home := ["work"]
  nodes :=
    [(["work", "out"], .directory), (["work", "out", "app"], .directory),
      (["work", "out", "app", "FakeTimerImpl.kt"], .file .empty)]
  refusals := []

theorem isKnown_knowing (hrequest : (request? config s).isSome) :
    isKnown config (some (knowing config s)) s = true := by
  obtain ⟨r, hr⟩ := Option.isSome_iff_exists.1 hrequest
  obtain ⟨analysis, hanalysis, rfl⟩ := exists_of_request? hr
  rw [isKnown, hanalysis, knowing, hr]
  change (!(false || (bareStore.entries.insert _ _).get? s.qualifiedName != some _)) = true
  rw [Entries.get?_insert, if_pos rfl]
  simp [Request.signature, signatureOf]

/-- A subject that is up to date behind another one is generated alone: there the output path does not
    lead anywhere until its directory is made. -/
theorem exists_not_alone :
    let clock := bare "Clock" .interface
    let timer := bare "Timer" .interface
    let store := knowing upwardConfig timer
    (timerDisk.IsTree ∧ timerDisk.refusals = [] ∧ store.isDegraded = false ∧ store.mode = .onFlush ∧
      Apart upwardConfig timerDisk.home (some store) ∧
      ¬ upwardConfig.output.place timerDisk.home <+: store.path.draft.place timerDisk.home ∧
      (∀ s ∈ [clock, timer], IsAddress s.package s.name) ∧
      ([clock, timer].map Subject.qualifiedName).Nodup) ∧
    ∃ first final changed final₁ changed₁,
      run (m := StateM Disk) upwardConfig (some store) [clock, timer] timerDisk =
        ((.ok ⟨[("app.Clock", first), ("app.Timer", .upToDate ⟨"m/../out/app/FakeTimerImpl.kt"⟩)]⟩,
          final), changed) ∧
      run (m := StateM Disk) upwardConfig (some store) [timer] timerDisk =
        ((.ok ⟨[("app.Timer", .generated ⟨"m/../out/app/FakeTimerImpl.kt"⟩)]⟩, final₁), changed₁) := by
  intro clock timer store
  have hmode : ∀ known, some store = some known → known.mode = .onFlush := by
    intro known hknown
    obtain rfl := Option.some.inj hknown
    decide +kernel
  have hknown : isKnown upwardConfig (some store) timer = true := isKnown_knowing (by decide +kernel)
  have hquiet : (alone upwardConfig (some store) timerDisk clock).2.refusals = [] := by
    unfold alone
    cases isKnown upwardConfig (some store) clock <;> decide +kernel
  have hbehind : (attempt upwardConfig timer true
      (alone upwardConfig (some store) timerDisk clock).2).1 =
        .upToDate ⟨"m/../out/app/FakeTimerImpl.kt"⟩ := by
    unfold alone
    cases isKnown upwardConfig (some store) clock <;> decide +kernel
  have halone : (attempt upwardConfig timer true timerDisk).1 =
      .generated ⟨"m/../out/app/FakeTimerImpl.kt"⟩ := by decide +kernel
  refine ⟨⟨isTree_of_nodes (by simp [timerDisk, node?, List.lookup_cons]), rfl, by decide +kernel,
    by decide +kernel, ?_, by decide +kernel, ?_, by decide⟩, ?_⟩
  · intro known hknown
    obtain rfl := Option.some.inj hknown
    decide +kernel
  · intro s hs
    refine isAddress_bareSubjects s ?_
    obtain rfl | rfl : s = clock ∨ s = timer := by simpa using hs
    all_goals simp [bareSubjects, clock, timer]
  · have houtput : upwardConfig.output.text ≠ "" := by decide
    have hchosen : annotated upwardConfig [clock, timer] = [clock, timer] := rfl
    have hself : annotated upwardConfig [timer] = [timer] := rfl
    have hne : timer.qualifiedName ≠ clock.qualifiedName := by decide
    obtain ⟨final, changed, hrun⟩ := exists_run_pair houtput rfl hquiet hmode hchosen hne
    obtain ⟨final₁, changed₁, hrun₁⟩ :=
      exists_run_single houtput (rfl : timerDisk.refusals = []) hmode hself
    rw [hknown, hbehind] at hrun
    rw [alone, hknown, halone] at hrun₁
    exact ⟨_, final, changed, final₁, changed₁, hrun, hrun₁⟩

end KotlinFakes.Pass
