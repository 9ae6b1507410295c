import KotlinFakes.Proofs.Pass.Account
import KotlinFakes.Proofs.Store.LastLine
import KotlinFakes.Signature.Listing
import Mathlib.Data.List.Nodup

/-!
# Listed and recorded digests

A listing of signatures and a pass go through the same subjects, each in its own way. The listing can be
read as the text of a store; what it then says about a subject is what a pass records when it generates
the fake of that subject.
-/

namespace KotlinFakes

namespace Entries

theorem get?_recordAll_empty_iff {signed : List (String × Signature)}
    (hsingle : ∀ a ∈ signed, ∀ b ∈ signed, a.1 = b.1 → a.2 = b.2) {id digest : String} :
    (empty.recordAll signed).get? id = some digest ↔
      ∃ signature, (id, signature) ∈ signed ∧ signature.digest = digest := by
  -- What was known before shows only where nothing is recorded.
  suffices h : ∀ entries : Entries, (entries.recordAll signed).get? id = some digest ↔
      (∃ signature, (id, signature) ∈ signed ∧ signature.digest = digest) ∨
        id ∉ signed.map Prod.fst ∧ entries.get? id = some digest by
    rw [h]
    simp [empty, get?]
  induction signed with
  | nil => simp
  | cons entry rest ih =>
      obtain ⟨other, signature⟩ := entry
      have ih := ih fun a ha b hb => hsingle a (List.mem_cons_of_mem _ ha) b (List.mem_cons_of_mem _ hb)
      intro entries
      rw [recordAll_cons, ih, get?_insert]
      by_cases hid : id = other
      · subst hid
        have hsame {found : Signature} (hfound : (id, found) ∈ rest) : found = signature :=
          hsingle _ (List.mem_cons_of_mem _ hfound) _ List.mem_cons_self rfl
        by_cases hrest : id ∈ rest.map Prod.fst
        · obtain ⟨⟨_, found⟩, hfound, rfl⟩ := List.mem_map.1 hrest
          obtain rfl := hsame hfound
          have hmore : (∃ other, (other = found ∨ (_, other) ∈ rest) ∧ other.digest = digest) ↔
              ∃ other, (_, other) ∈ rest ∧ other.digest = digest :=
            ⟨fun ⟨other, hother, hdigest⟩ => ⟨other, hother.elim (· ▸ hfound) id, hdigest⟩,
              fun ⟨other, hother, hdigest⟩ => ⟨other, .inr hother, hdigest⟩⟩
          simp [hrest, hmore]
        · have hnone : ∀ other, (id, other) ∉ rest := fun other h =>
            hrest (List.mem_map.2 ⟨_, h, rfl⟩)
          simp [hrest, hnone]
      · simp [hid]

theorem appendAll_eq (text : String) (signed : List (String × Signature)) :
    appendAll (some text) signed =
      text ++ String.join (signed.map fun entry => line entry.1 entry.2.digest) := by
  induction signed generalizing text with
  | nil => simp [appendAll]
  | cons entry rest ih =>
      have hrest := ih (text ++ line entry.1 entry.2.digest)
      simpa [appendAll, String.append_assoc] using hrest

end Entries

namespace Pass

open Disk

/-- What is recorded when the file of a request was written. -/
def Request.entry (r : Request) : String × Signature := (r.id, r.signature)

section Entries

variable {config : Config} {subjects : List Subject}

theorem Request.id_eq {s : Subject} {r : Request} (h : request? config s = some r) :
    r.id = s.qualifiedName := by
  obtain ⟨analysis, hanalysis, rfl⟩ := exists_of_request? h
  obtain ⟨supertype, properties, -, -, hb⟩ := Subject.blueprint_of_analyze hanalysis
  exact congrArg Blueprint.id hb

theorem get?_recordAll_requests_iff (hdistinct : (subjects.map Subject.qualifiedName).Nodup)
    {requests : List Request} (hrequests : ∀ r ∈ requests, ∃ s ∈ subjects, request? config s = some r)
    {id digest : String} :
    (Entries.empty.recordAll (requests.map Request.entry)).get? id = some digest ↔
      ∃ r ∈ requests, r.id = id ∧ r.signature.digest = digest := by
  rw [Entries.get?_recordAll_empty_iff]
  · simp [Request.entry, and_assoc]
  · intro a ha b hb hname
    obtain ⟨r, hr, rfl⟩ := List.mem_map.1 ha
    obtain ⟨r', hr', rfl⟩ := List.mem_map.1 hb
    obtain ⟨s, hs, hr⟩ := hrequests r hr
    obtain ⟨s', hs', hr'⟩ := hrequests r' hr'
    have hname : s.qualifiedName = s'.qualifiedName :=
      (Request.id_eq hr).symm.trans (hname.trans (Request.id_eq hr'))
    obtain rfl := List.inj_on_of_nodup_map hdistinct hs hs' hname
    obtain rfl := Option.some.inj (hr.symm.trans hr')
    rfl

/-- A listing has a line for every subject that is not rejected, with what would be recorded about it. -/
theorem listing_eq (config : Config) (subjects : List Subject) :
    Signature.listing config.fileOptions subjects =
      Entries.appendAll (some "") ((subjects.filterMap (request? config)).map Request.entry) := by
  rw [Entries.appendAll_eq, String.empty_append, Signature.listing]
  induction subjects with
  | nil => rfl
  | cons s rest ih =>
      rw [List.map_cons, String.join_cons, ih]
      cases hanalysis : s.analyze with
      | error r => simp [request?, Subject.listed, hanalysis]
      | ok analysis =>
          simp [request?, Subject.listed, hanalysis, Request.entry, Request.id, Request.signature]

/-- A listing that is read as the text of a store has the digests of all subjects that are not
    rejected. -/
theorem get?_parse_listing_iff (hdistinct : (subjects.map Subject.qualifiedName).Nodup)
    (hdotted : ∀ s ∈ subjects, Identifier.isDotted s.qualifiedName) {id digest : String} :
    (Entries.parse (Signature.listing config.fileOptions subjects)).get? id = some digest ↔
      ∃ s ∈ subjects, ∃ r, request? config s = some r ∧ r.id = id ∧ r.signature.digest = digest := by
  have hrequests : ∀ r ∈ subjects.filterMap (request? config),
      ∃ s ∈ subjects, request? config s = some r := fun r hr => List.mem_filterMap.1 hr
  rw [listing_eq, Entries.parse_appendAll (.inl rfl)]
  · refine (get?_recordAll_requests_iff hdistinct hrequests).trans ?_
    constructor
    · rintro ⟨r, hr, hid, hdigest⟩
      obtain ⟨s, hs, hr⟩ := hrequests r hr
      exact ⟨s, hs, r, hr, hid, hdigest⟩
    · rintro ⟨s, hs, r, hr, hid, hdigest⟩
      exact ⟨r, List.mem_filterMap.2 ⟨s, hs, hr⟩, hid, hdigest⟩
  · intro entry hentry
    obtain ⟨r, hr, rfl⟩ := List.mem_map.1 hentry
    obtain ⟨s, hs, hr⟩ := hrequests r hr
    rw [Request.entry, Request.id_eq hr]
    exact hdotted s hs

theorem get?_parse_listing_eq_none_iff (hdistinct : (subjects.map Subject.qualifiedName).Nodup)
    (hdotted : ∀ s ∈ subjects, Identifier.isDotted s.qualifiedName) {s : Subject} (hs : s ∈ subjects) :
    (Entries.parse (Signature.listing config.fileOptions subjects)).get? s.qualifiedName = none ↔
      request? config s = none := by
  rw [Option.eq_none_iff_forall_ne_some, Option.eq_none_iff_forall_ne_some]
  constructor
  · intro h r hr
    exact h _ ((get?_parse_listing_iff hdistinct hdotted).2 ⟨s, hs, r, hr, Request.id_eq hr, rfl⟩)
  · intro h digest hdigest
    obtain ⟨s', hs', r, hr, hname, -⟩ := (get?_parse_listing_iff hdistinct hdotted).1 hdigest
    obtain rfl := List.inj_on_of_nodup_map hdistinct hs' hs ((Request.id_eq hr).symm.trans hname)
    exact h r hr

end Entries

/-! ## What a pass records -/

section Recorded

variable {config : Config} {subjects : List Subject} {store : SignatureStore} {state final : State}
  {disk changed : Disk} {outcomes : List (String × Outcome)}

theorem entries_of_processAll
    (h : processAll (m := StateM Disk) config subjects (.start (some store)) disk =
      ((outcomes, state), changed)) :
    ∃ known, state.store = some known ∧ known.entries =
      store.entries.recordAll ((generations config subjects outcomes).map Request.entry) := by
  refine processAll_induction
    (fun made reached _ => ∃ known, reached = some known ∧
      known.entries = store.entries.recordAll (made.map Request.entry))
    (fun s hs made reached disk outcome store' changed hkept hstep => ?_) h [] ⟨store, rfl, rfl⟩
  obtain ⟨known, rfl, hentries⟩ := hkept
  have hsame {outcome : Outcome} (hnot : outcome.isGenerated = false) :
      ∃ known', some known = some known' ∧ known'.entries =
        store.entries.recordAll ((made ++ generated config s outcome).map Request.entry) := by
    refine ⟨known, rfl, ?_⟩
    rw [generated, hnot, if_neg Bool.false_ne_true, List.append_nil, hentries]
  cases hstep with
  | rejected r =>
      obtain ⟨_, hr⟩ | ⟨_, hr⟩ := rejectedOutcome_cases r <;> (rw [hr]; exact hsame rfl)
  | upToDate hr hstore hdegraded hdigest hfiles hfile => exact hsame rfl
  | failed failure hr hfiles => exact hsame rfl
  | @generated r written changed recorded hr hrender hfiles hfile hrecord =>
      obtain ⟨hnone, -, -⟩ | ⟨old, remembered, hold, rfl, hrecord⟩ := hrecord
      · cases hnone
      · obtain rfl := Option.some.inj hold
        obtain ⟨-, -, hinsert, -⟩ := SignatureStore.record_spec hrecord
        refine ⟨remembered, rfl, ?_⟩
        rw [hinsert, hentries]
        simp [generated, hr, Outcome.isGenerated, Entries.recordAll, Request.entry]

theorem mem_generations {s : Subject} {name : String} {outcome : Outcome} {r : Request}
    (hmem : (s, name, outcome) ∈ subjects.zip outcomes) (hgenerated : outcome.isGenerated)
    (hr : request? config s = some r) : r ∈ generations config subjects outcomes :=
  List.mem_flatMap.2 ⟨_, hmem, by simp [generated, hgenerated, hr]⟩

/-- Whether a text that is read as that of a store agrees with what a pass has recorded in its store
    about subjects with some outcomes. -/
structure Lists (text : String) (subjects : List Subject) (outcomes : List (String × Outcome))
    (known : SignatureStore) : Prop where
  /-- What is generated has the recorded digest in the text. -/
  generated : ∀ s name path, (s, name, Outcome.generated path) ∈ subjects.zip outcomes →
    ∃ digest, known.digest? s.qualifiedName = some digest ∧
      (Entries.parse text).get? s.qualifiedName = some digest
  /-- Whatever is recorded is in the text. -/
  recorded : ∀ id digest, known.digest? id = some digest → (Entries.parse text).get? id = some digest
  /-- What the text leaves out was passed over or could not be analysed. -/
  missing : ∀ s name outcome, (s, name, outcome) ∈ subjects.zip outcomes →
    ((Entries.parse text).get? s.qualifiedName = none ↔
      outcome.isSkipped ∨ ∃ r, outcome = .failed (.rejected r))

theorem Ends.request?_eq_none_iff {s : Subject} {outcome : Outcome} (h : Ends s outcome) :
    request? config s = none ↔ outcome.isSkipped ∨ ∃ r, outcome = .failed (.rejected r) := by
  cases h with
  | @rejected r ha =>
      refine iff_of_true (by rw [request?, ha]) ?_
      rw [rejectedOutcome_isSkipped]
      cases hskip : r.isSkip with
      | true => exact .inl rfl
      | false => exact .inr ⟨r, by rw [rejectedOutcome, hskip, if_neg Bool.false_ne_true]⟩
  | @failed analysis ha failure hfailure =>
      refine iff_of_false (by simp [request?, ha]) ?_
      rintro (hskipped | ⟨r, hr⟩)
      · cases hskipped
      · exact hfailure r (Outcome.failed.inj hr)
  | @done analysis ha _ hfailed hskipped =>
      refine iff_of_false (by simp [request?, ha]) ?_
      rintro (h | ⟨r, rfl⟩)
      · rw [hskipped] at h
        cases h
      · cases hfailed

/-- The listing of annotated subjects agrees with what a pass over them records in a store that was
    empty, if they have different names: a subject that is generated has the digest there that the store
    has, and the subjects without a line are those that are rejected. It holds whatever operations on
    files are refused. -/
theorem lists_of_run {report : Report} (hannotated : ∀ s ∈ subjects, s.hasAnnotation config.marker)
    (hdistinct : (subjects.map Subject.qualifiedName).Nodup)
    (hdotted : ∀ s ∈ subjects, Identifier.isDotted s.qualifiedName)
    (hempty : store.entries = .empty)
    (h : run (m := StateM Disk) config (some store) subjects disk = ((.ok report, final), changed)) :
    ∃ known, final.store = some known ∧
      Lists (Signature.listing config.fileOptions subjects) subjects report.outcomes known := by
  have hchosen : annotated config subjects = subjects := List.filter_eq_self.2 hannotated
  obtain ⟨e, herror, -⟩ | ⟨outcomes, state, between, hprocess, hreport, hfinish⟩ := run_cases h
  · cases herror
  · obtain rfl := Except.ok.inj hreport
    rw [hchosen] at hprocess
    obtain ⟨reached, hreached, hentries⟩ := entries_of_processAll hprocess
    obtain ⟨hnone, -⟩ | ⟨known, saved, result, hknown, hsaved, hflush⟩ := finish_cases hfinish
    · rw [hreached] at hnone
      cases hnone
    · obtain rfl := Option.some.inj (hreached.symm.trans hknown)
      have hsame : saved.entries = reached.entries := (SignatureStore.flush_entries hflush).2
      rw [hempty] at hentries
      have hdigest {id digest : String} : saved.digest? id = some digest ↔
          ∃ r ∈ generations config subjects outcomes, r.id = id ∧ r.signature.digest = digest := by
        rw [SignatureStore.digest?, hsame, hentries]
        exact get?_recordAll_requests_iff hdistinct fun r hr => exists_of_mem_generations hr
      have hrecorded (id digest : String) (hknown : saved.digest? id = some digest) :
          (Entries.parse (Signature.listing config.fileOptions subjects)).get? id = some digest := by
        obtain ⟨r, hr, rfl, rfl⟩ := hdigest.1 hknown
        obtain ⟨s, hs, hr⟩ := exists_of_mem_generations hr
        exact (get?_parse_listing_iff hdistinct hdotted).2 ⟨s, hs, r, hr, rfl, rfl⟩
      have hends {s : Subject} {name : String} {outcome : Outcome}
          (hmem : (s, name, outcome) ∈ subjects.zip outcomes) : Ends s outcome :=
        (List.forall₂_zip (processAll_reports hprocess).1 hmem).2
      refine ⟨saved, hsaved, ?_, hrecorded, ?_⟩
      · intro s name path hmem
        obtain ⟨r, hr⟩ : ∃ r, request? config s = some r := by
          rw [← Option.ne_none_iff_exists', ne_eq, (hends hmem).request?_eq_none_iff]
          rintro (hskipped | ⟨r, hr⟩)
          · cases hskipped
          · cases hr
        have hknown : saved.digest? s.qualifiedName = some r.signature.digest :=
          hdigest.2 ⟨r, mem_generations hmem rfl hr, Request.id_eq hr, rfl⟩
        exact ⟨_, hknown, hrecorded _ _ hknown⟩
      · intro s name outcome hmem
        rw [get?_parse_listing_eq_none_iff hdistinct hdotted (List.of_mem_zip hmem).1]
        exact (hends hmem).request?_eq_none_iff

end Recorded

/-- An interface with one property. -/
def withProperty (name property : String) (type : Option TypeRef) : Subject :=
  { bare name .interface with
    members := [.property ⟨property, type, none, false, .abstract, .declared⟩] }

/-- An interface, an enum, an interface with a property of no type, and one with a property whose name
    cannot be written. -/
def mixedSubjects : List Subject :=
  [bare "Clock" .interface, bare "Color" .enumClass, withProperty "Money" "amount" none,
    withProperty "Box" "1" (some .unit)]

/-- The listing of four subjects, of which one is generated, one is passed over, one is rejected and one
    has no file. -/
theorem lists_of_run_mixed : ∃ report final changed known,
    run (m := StateM Disk) bareConfig (some bareStore) mixedSubjects (.empty ["work"]) =
      ((.ok report, final), changed) ∧
    report.outcomes.map (fun entry => (entry.2.isGenerated, entry.2.isSkipped, entry.2.isFailed)) =
      [(true, false, false), (false, true, false), (false, false, true), (false, false, true)] ∧
    final.store = some known ∧
    Lists (Signature.listing bareConfig.fileOptions mixedSubjects) mixedSubjects report.outcomes
      known := by
  have hresult : (run (m := StateM Disk) bareConfig (some bareStore) mixedSubjects
      (.empty ["work"])).1.1.toOption.map (fun report =>
        report.outcomes.map (fun entry => (entry.2.isGenerated, entry.2.isSkipped, entry.2.isFailed))) =
      some [(true, false, false), (false, true, false), (false, false, true), (false, false, true)] := by
    decide +kernel
  obtain ⟨⟨⟨result, final⟩, changed⟩, hrun⟩ : ∃ ended, run (m := StateM Disk) bareConfig
      (some bareStore) mixedSubjects (.empty ["work"]) = ended := ⟨_, rfl⟩
  rw [hrun] at hresult
  cases result with
  | error e => cases hresult
  | ok report =>
      obtain ⟨known, hknown, hlists⟩ :=
        lists_of_run (by decide) (by decide) (by decide +kernel) rfl hrun
      exact ⟨report, final, changed, known, hrun, Option.some.inj hresult, hknown, hlists⟩

end Pass

end KotlinFakes
