import KotlinFakes.Files.Disk
import KotlinFakes.Pass.Run
import KotlinFakes.Proofs.Sequence
import Mathlib.Data.List.Forall2

/-!
# Directories and the order of subjects

A pass finds the directories of all its subjects before it does anything else. A pool takes up every
subject once, and what comes out is put back at the positions of the subjects.
-/

namespace KotlinFakes.Pass

/-! ## Pools -/

namespace Pool

variable {α β : Type} {pool : Pool}

theorem filterMap_getElem?_range (xs : List α) : (List.range xs.length).filterMap (xs[·]?) = xs := by
  induction xs with
  | nil => rfl
  | cons x xs ih =>
      rw [List.length_cons, List.range_succ_eq_map, List.filterMap_cons, List.filterMap_map]
      exact congrArg (x :: ·) ih

theorem take_inOrder (xs : List α) : inOrder.take xs = xs := filterMap_getElem?_range xs

theorem take_perm (pool : Pool) (xs : List α) : (pool.take xs).Perm xs := by
  have hperm := (pool.perm xs.length).filterMap (xs[·]?)
  rwa [filterMap_getElem?_range] at hperm

theorem take_map (pool : Pool) (f : α → β) (xs : List α) :
    pool.take (xs.map f) = (pool.take xs).map f := by
  simp only [take, List.length_map, List.getElem?_map, List.map_filterMap]

theorem forall₂_filterMap {kept : α → β → Prop} {positions : List Nat} {f : Nat → Option α}
    {g : Nat → Option β}
    (h : ∀ i ∈ positions, ∃ x y, f i = some x ∧ g i = some y ∧ kept x y) :
    List.Forall₂ kept (positions.filterMap f) (positions.filterMap g) := by
  induction positions with
  | nil => exact .nil
  | cons i positions ih =>
      obtain ⟨⟨x, y, hx, hy, hkept⟩, hrest⟩ := List.forall_mem_cons.1 h
      rw [List.filterMap_cons, hx, List.filterMap_cons, hy]
      exact .cons hkept (ih hrest)

theorem exists_lookup_zip {kept : α → β → Prop} {order : List Nat} {xs : List α} {ys : List β}
    (hlt : ∀ i ∈ order, i < xs.length) (h : List.Forall₂ kept (order.filterMap (xs[·]?)) ys) :
    ∀ i ∈ order, ∃ x y, xs[i]? = some x ∧ (order.zip ys).lookup i = some y ∧ kept x y := by
  induction order generalizing ys with
  | nil => exact nofun
  | cons first order ih =>
      obtain ⟨hfirst, hrest⟩ := List.forall_mem_cons.1 hlt
      have hread : xs[first]? = some xs[first] := List.getElem?_eq_getElem hfirst
      rw [List.filterMap_cons, hread] at h
      cases h with
      | @cons _ y _ ys hkept hmore =>
          intro i hi
          rw [List.zip_cons_cons, List.lookup_cons]
          by_cases heq : i = first
          · subst heq
            exact ⟨_, y, hread, by simp, hkept⟩
          · rw [beq_false_of_ne heq]
            exact ih hrest hmore i ((List.mem_cons.1 hi).resolve_left heq)

theorem forall₂_restore {kept : α → β → Prop} {xs : List α} {ys : List β}
    (h : List.Forall₂ kept (pool.take xs) ys) : List.Forall₂ kept xs (pool.restore ys) := by
  have hlength : ys.length = xs.length := h.length_eq.symm.trans (pool.take_perm xs).length_eq
  have hmem (i : Nat) : i ∈ pool.order xs.length ↔ i ∈ List.range xs.length :=
    (pool.perm xs.length).mem_iff
  have hread := exists_lookup_zip (fun i hi => List.mem_range.1 ((hmem i).1 hi)) h
  have hall := forall₂_filterMap fun i hi => hread i ((hmem i).2 hi)
  rw [filterMap_getElem?_range] at hall
  rwa [restore, hlength]

theorem restore_inOrder (xs : List α) : inOrder.restore xs = xs := by
  have hself : List.Forall₂ Eq (inOrder.take xs) xs := by
    rw [take_inOrder]
    exact List.forall₂_refl xs
  exact (List.forall₂_eq_eq_eq ▸ forall₂_restore hself : xs = _).symm

end Pool

theorem processPooled_inOrder {m : Type → Type} [Monad m] [LawfulMonad m] [FileSystem m]
    (config : Config) (placements : List Placement) (state : State) :
    processPooled (m := m) config .inOrder placements state = processEach config placements state := by
  unfold processPooled
  split
  · simp [Pool.take_inOrder, Pool.restore_inOrder]
  · rfl

/-! ## Locators -/

namespace Locator

variable {locator : Locator} {subjects : List Subject}

theorem place_cons (locator : Locator) (s : Subject) (rest : List Subject) :
    locator.place (s :: rest) = do
      let output ← locator s
      let placements ← locator.place rest
      return ⟨s, output⟩ :: placements := by
  simp [place, List.mapM_cons]

theorem place_fixed_cases (output : Path) (subjects : List Subject) :
    (fixed output).place subjects = .ok (subjects.map (⟨·, output⟩)) ∨
      output.text = "" ∧ ∃ e, (fixed output).place subjects = .error e := by
  by_cases h : output.text = ""
  · cases subjects with
    | nil => exact .inl rfl
    | cons s rest =>
        refine .inr ⟨h, .noOutput s.qualifiedName "no output directory configured", ?_⟩
        rw [place_cons, fixed, if_pos h]
        rfl
  · left
    induction subjects with
    | nil => rfl
    | cons s rest ih =>
        rw [place_cons, ih, fixed, if_neg h]
        rfl

theorem place_cons_eq_error_iff {s : Subject} {rest : List Subject} {e : Error} :
    locator.place (s :: rest) = .error e ↔
      locator s = .error e ∨ (∃ output, locator s = .ok output) ∧ locator.place rest = .error e := by
  rw [place_cons]
  cases locator s with
  | error e' => simp [bind, Except.bind]
  | ok output =>
      cases locator.place rest <;> simp [bind, Except.bind, pure, Except.pure]

theorem place_eq_error_iff {e : Error} :
    locator.place subjects = .error e ↔ ∃ before s after, subjects = before ++ s :: after ∧
      locator s = .error e ∧ ∀ other ∈ before, ∃ output, locator other = .ok output := by
  constructor
  · intro h
    induction subjects with
    | nil => cases h
    | cons s rest ih =>
        obtain hs | ⟨hs, hrest⟩ := place_cons_eq_error_iff.1 h
        · exact ⟨[], s, rest, rfl, hs, nofun⟩
        · obtain ⟨before, t, after, rfl, ht, hbefore⟩ := ih hrest
          exact ⟨s :: before, t, after, rfl, ht, List.forall_mem_cons.2 ⟨hs, hbefore⟩⟩
  · rintro ⟨before, s, after, rfl, hs, hbefore⟩
    induction before with
    | nil => exact place_cons_eq_error_iff.2 (.inl hs)
    | cons first before ih =>
        obtain ⟨hfirst, hbefore⟩ := List.forall_mem_cons.1 hbefore
        exact place_cons_eq_error_iff.2 (.inr ⟨hfirst, ih hbefore⟩)

end Locator

/-! ## Passes -/

section Passes

variable {locator : Locator} {pool : Pool} {config : Config} {store : Option SignatureStore}
  {subjects : List Subject} {result : Except Error Report} {final : State} {disk changed : Disk}

/-- A pass does nothing at all, or it processes the subjects for which it has found directories and then
    saves its store. -/
theorem runWith_cases (h : runWith (m := StateM Disk) locator pool config store subjects disk =
      ((result, final), changed)) :
    (∃ e, locator.place (annotated config subjects) = .error e ∧ result = .error e ∧
        final = .start store ∧ changed = disk) ∨
      ∃ placements outcomes state between,
        locator.place (annotated config subjects) = .ok placements ∧
        processPooled (m := StateM Disk) config pool placements (.start store) disk =
          ((outcomes, state), between) ∧
        result = .ok ⟨outcomes⟩ ∧ finish (m := StateM Disk) state between = (final, changed) := by
  unfold runWith at h
  cases hplace : locator.place (annotated config subjects) with
  | error e =>
      rw [hplace] at h
      obtain ⟨hresult, rfl⟩ := Prod.mk.inj h
      obtain ⟨rfl, rfl⟩ := Prod.mk.inj hresult
      exact .inl ⟨e, rfl, rfl, rfl, rfl⟩
  | ok placements =>
      rw [hplace] at h
      obtain ⟨⟨outcomes, state⟩, between, hprocess, h⟩ := exists_of_bind h
      obtain ⟨ended, after, hfinish, h⟩ := exists_of_bind h
      obtain ⟨hresult, rfl⟩ := Prod.mk.inj h
      obtain ⟨rfl, rfl⟩ := Prod.mk.inj hresult
      exact .inr ⟨placements, outcomes, state, between, rfl, hprocess, rfl, hfinish⟩

/-- A pass ends with an error exactly if there is no directory for one of its subjects. It is the error
    about the first of these, and nothing was read, written, recorded or reported. -/
theorem runWith_eq_error_iff {e : Error} :
    runWith (m := StateM Disk) locator pool config store subjects disk =
        ((.error e, final), changed) ↔
      (∃ before s after, annotated config subjects = before ++ s :: after ∧ locator s = .error e ∧
        ∀ other ∈ before, ∃ output, locator other = .ok output) ∧
      final = .start store ∧ changed = disk := by
  rw [← Locator.place_eq_error_iff]
  constructor
  · intro h
    obtain ⟨e', hplace, he, hfinal, hchanged⟩ | ⟨placements, outcomes, state, between, -, -, hok, -⟩ :=
      runWith_cases h
    · obtain rfl := Except.error.inj he
      exact ⟨hplace, hfinal, hchanged⟩
    · cases hok
  · rintro ⟨hplace, rfl, rfl⟩
    unfold runWith
    rw [hplace]
    rfl

theorem exists_report_iff :
    (∃ report final changed, runWith (m := StateM Disk) locator pool config store subjects disk =
        ((.ok report, final), changed)) ↔
      ∃ placements, locator.place (annotated config subjects) = .ok placements := by
  constructor
  · rintro ⟨report, final, changed, h⟩
    obtain ⟨e, -, herror, -⟩ | ⟨placements, outcomes, state, between, hplace, -⟩ := runWith_cases h
    · cases herror
    · exact ⟨placements, hplace⟩
  · rintro ⟨placements, hplace⟩
    unfold runWith
    rw [hplace]
    exact ⟨_, _, _, rfl⟩

/-- A pass for one directory processes its subjects in some order, and what became of each of them is in
    the report at its position. -/
theorem runWith_fixed_cases
    (h : runWith (m := StateM Disk) (.fixed config.output) pool config store subjects disk =
      ((result, final), changed)) :
    (∃ e, result = .error e ∧ final = .start store ∧ changed = disk) ∨
      ∃ order outcomes reported state between, order.Perm (annotated config subjects) ∧
        processAll (m := StateM Disk) config order (.start store) disk =
          ((outcomes, state), between) ∧
        result = .ok ⟨reported⟩ ∧
        (∀ kept, List.Forall₂ kept order outcomes →
          List.Forall₂ kept (annotated config subjects) reported) ∧
        finish (m := StateM Disk) state between = (final, changed) := by
  obtain ⟨e, -, rfl, rfl, rfl⟩ | ⟨placements, reported, state, between, hplace, hprocess, rfl,
    hfinish⟩ := runWith_cases h
  · exact .inl ⟨e, rfl, rfl, rfl⟩
  right
  obtain hfixed | ⟨-, e, herror⟩ := Locator.place_fixed_cases config.output (annotated config subjects)
  · obtain rfl := Except.ok.inj (hplace.symm.trans hfixed)
    unfold processPooled at hprocess
    split at hprocess
    · obtain ⟨⟨outcomes, ended⟩, after, hordered, hrestore⟩ := exists_of_bind hprocess
      obtain ⟨hresult, rfl⟩ := Prod.mk.inj hrestore
      obtain ⟨rfl, rfl⟩ := Prod.mk.inj hresult
      rw [Pool.take_map] at hordered
      exact ⟨_, outcomes, _, ended, _, pool.take_perm _, hordered, rfl,
        fun _ => Pool.forall₂_restore, hfinish⟩
    · exact ⟨_, reported, _, state, _, .refl _, hprocess, rfl, fun _ => id, hfinish⟩
  · rw [hplace] at herror
    cases herror

theorem run_cases (h : run (m := StateM Disk) config store subjects disk = ((result, final), changed)) :
    (∃ e, result = .error e ∧ final.store = store ∧ changed = disk) ∨
      ∃ outcomes state between,
        processAll (m := StateM Disk) config (annotated config subjects) (.start store) disk =
          ((outcomes, state), between) ∧
        result = .ok ⟨outcomes⟩ ∧ finish (m := StateM Disk) state between = (final, changed) := by
  obtain ⟨e, -, rfl, rfl, rfl⟩ | ⟨placements, outcomes, state, between, hplace, hprocess, rfl, hfinish⟩ :=
    runWith_cases h
  · exact .inl ⟨e, rfl, rfl, rfl⟩
  · obtain hfixed | ⟨-, e, herror⟩ := Locator.place_fixed_cases config.output (annotated config subjects)
    · obtain rfl := Except.ok.inj (hplace.symm.trans hfixed)
      rw [processPooled_inOrder] at hprocess
      exact .inr ⟨outcomes, state, between, hprocess, rfl, hfinish⟩
    · rw [hplace] at herror
      cases herror

end Passes

end KotlinFakes.Pass
