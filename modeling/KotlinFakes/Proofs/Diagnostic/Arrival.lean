import KotlinFakes.Proofs.Diagnostic.Queue

/-!
# Reports in any order of arrival

Reports that agree in declaration, severity, code and message are handed out as they came. So the order of
arrival shows just where two of them differ in their notes.
-/

namespace KotlinFakes.DiagnosticQueue

variable {ds ds' : List Diagnostic}

theorem perm_pending_addAll (h : ds'.Perm ds) :
    (empty.addAll ds').pending.Perm (empty.addAll ds).pending := by
  rw [List.perm_ext_iff_of_nodup (nodup_pending _) (nodup_pending _)]
  intro d
  rw [mem_addAll, mem_addAll, h.mem_iff]

theorem filter_agreesWith_flush (d : Diagnostic) :
    (empty.addAll ds).flush.filter (ties (fun a b => (a.order b).isLE) d) =
      (ds.filter (ties (fun a b => (a.order b).isLE) d)).eraseDups := by
  rw [flush, filter_ties_mergeSort Diagnostic.order_trans Diagnostic.order_total, filter_addAll]
  rfl

theorem head?_agreesWith_flush {d e : Diagnostic} (h : d.AgreesWith e) (rest : List Diagnostic) :
    ((empty.addAll (e :: rest)).flush.filter (ties (fun a b => (a.order b).isLE) d)).head? =
      some e := by
  rw [filter_agreesWith_flush, List.filter_cons_of_pos (Diagnostic.ties_iff.2 h),
    List.eraseDups_cons, List.head?_cons]

/-- The order of arrival of reports makes no difference to what is handed out if and only if no two of them
    differ in their notes alone. -/
theorem forall_perm_flush_eq_iff (ds : List Diagnostic) :
    (∀ ds', ds'.Perm ds → (empty.addAll ds').flush = (empty.addAll ds).flush) ↔
      ∀ d ∈ ds, ∀ e ∈ ds, d.AgreesWith e → d.notes = e.notes := by
  constructor
  · intro hsame d hd e he hagrees
    by_contra hnotes
    have hne : e ≠ d := fun heq => hnotes (by rw [heq])
    -- One of the two arrives first, and then the other one.
    obtain ⟨rest, hrest⟩ : ∃ rest, (d :: e :: rest).Perm ds := by
      have hmem : e ∈ ds.erase d := (List.mem_erase_of_ne hne).2 he
      exact ⟨(ds.erase d).erase e,
        ((List.perm_cons_erase hmem).symm.cons d).trans (List.perm_cons_erase hd).symm⟩
    have hflush : (empty.addAll (d :: e :: rest)).flush = (empty.addAll (e :: d :: rest)).flush :=
      (hsame _ hrest).trans (hsame _ ((List.Perm.swap d e rest).trans hrest)).symm
    have hfirst := head?_agreesWith_flush (d := d) ⟨rfl, rfl, rfl, rfl⟩ (e :: rest)
    have hsecond := head?_agreesWith_flush hagrees (d :: rest)
    rw [hflush, hsecond] at hfirst
    exact hne (Option.some.inj hfirst)
  · intro hnotes ds' hperm
    have hmem {queued : List Diagnostic} {d : Diagnostic} (hd : d ∈ (empty.addAll queued).flush) :
        d ∈ queued := by
      rw [mem_flush, mem_addAll] at hd
      exact hd.resolve_left List.not_mem_nil
    have hflush : (empty.addAll ds').flush.Perm (empty.addAll ds).flush :=
      (perm_flush _).trans ((perm_pending_addAll hperm).trans (perm_flush _).symm)
    refine hflush.eq_of_pairwise (fun d e hd he hde hed => ?_) (pairwise_flush _) (pairwise_flush _)
    have hagrees : d.AgreesWith e := Diagnostic.ties_iff.1 (Bool.and_eq_true_iff.2 ⟨hde, hed⟩)
    exact hagrees.eq (hnotes d (hperm.mem_iff.1 (hmem hd)) e (hmem he) hagrees)

/-- A warning about the cache with a note. -/
def cacheWarning (note : String) : Diagnostic where
  code := .cacheUnavailable
  severity := .warning
  message := "cannot write signature cache"
  declaration := none
  notes := [note]

/-- Two warnings that differ in their notes are handed out as they came, in the one order or the other. -/
theorem exists_perm_flush_ne : ∃ ds ds', ds'.Perm ds ∧
    (empty.addAll ds).flush = [cacheWarning "disk full", cacheWarning "read only"] ∧
    (empty.addAll ds').flush = [cacheWarning "read only", cacheWarning "disk full"] ∧
    (empty.addAll ds').flush ≠ (empty.addAll ds).flush := by
  have hfirst : (empty.addAll [cacheWarning "disk full", cacheWarning "read only"]).flush =
      [cacheWarning "disk full", cacheWarning "read only"] := List.mergeSort_of_pairwise (by decide)
  have hsecond : (empty.addAll [cacheWarning "read only", cacheWarning "disk full"]).flush =
      [cacheWarning "read only", cacheWarning "disk full"] := List.mergeSort_of_pairwise (by decide)
  refine ⟨_, _, .swap _ _ _, hfirst, hsecond, ?_⟩
  rw [hfirst, hsecond]
  decide

end KotlinFakes.DiagnosticQueue
