import KotlinFakes.Diagnostic.Queue
import KotlinFakes.Proofs.Diagnostic.Order

/-!
# What a queue hands out

A queue hands out what it has collected, in an order that leaves reports about different declarations in
no doubt. In which order the declarations were reported about therefore makes no difference.
-/

namespace KotlinFakes

/-! ## Lists without repetitions -/

section Repetitions

variable {α : Type} [BEq α] [LawfulBEq α]

theorem eraseDups_of_nodup {l : List α} (h : l.Nodup) : l.eraseDups = l := by
  induction l with
  | nil => rfl
  | cons a rest ih =>
      obtain ⟨hnew, hrest⟩ := List.nodup_cons.1 h
      have hkept : rest.filter (fun b => !b == a) = rest := by
        refine List.filter_eq_self.2 fun b hb => ?_
        rw [Bool.not_eq_true', beq_eq_false_iff_ne]
        intro heq
        exact hnew (heq ▸ hb)
      rw [List.eraseDups_cons, hkept, ih hrest]

theorem filter_eraseDups (p : α → Bool) (l : List α) :
    l.eraseDups.filter p = (l.filter p).eraseDups := by
  -- On the length: what repeats the first element is taken out of the rest.
  induction hlength : l.length using Nat.strongRecOn generalizing l with
  | _ n ih =>
      cases l with
      | nil => rfl
      | cons a rest =>
          have hshort : (rest.filter fun b => !b == a).length < n := by
            have hle := List.length_filter_le (fun b => !b == a) rest
            rw [List.length_cons] at hlength
            omega
          have hrest := ih _ hshort _ rfl
          rw [List.eraseDups_cons, List.filter_cons, List.filter_cons]
          cases ha : p a with
          | true =>
              simp only [if_true]
              rw [hrest, List.eraseDups_cons, List.filter_filter, List.filter_filter]
              simp only [Bool.and_comm]
          | false =>
              have hother : (rest.filter fun b => !b == a).filter p = rest.filter p := by
                rw [List.filter_filter]
                refine List.filter_congr fun b _ => ?_
                by_cases hb : b = a
                · rw [hb, ha, Bool.false_and]
                · simp [hb]
              simp only [Bool.false_eq_true, if_false]
              rw [hrest, hother]

end Repetitions

namespace DiagnosticQueue

theorem pending_add (queue : DiagnosticQueue) (d : Diagnostic) :
    (queue.add d).pending =
      if d ∈ queue.pending then queue.pending else queue.pending ++ [d] := by
  unfold add
  split
  · next hnew => rw [if_neg (isNew_iff.1 hnew)]
  · next hold => rw [if_pos (Classical.not_not.1 (mt isNew_iff.2 hold))]

/-- What is pending is what was added, each report where it came first. -/
theorem pending_addAll (queue : DiagnosticQueue) (ds : List Diagnostic) :
    (queue.addAll ds).pending = (queue.pending ++ ds).eraseDups := by
  induction ds generalizing queue with
  | nil => rw [List.append_nil, eraseDups_of_nodup queue.nodup_pending, addAll, List.foldl_nil]
  | cons d ds ih =>
      rw [addAll, List.foldl_cons, ← addAll, ih, pending_add]
      split
      · next hold =>
          rw [List.eraseDups_append, List.eraseDups_append, List.cons_removeAll]
          simp [hold]
      · rw [List.append_assoc, List.singleton_append]

theorem mem_addAll {queue : DiagnosticQueue} {ds : List Diagnostic} {e : Diagnostic} :
    e ∈ (queue.addAll ds).pending ↔ e ∈ queue.pending ∨ e ∈ ds := by
  rw [pending_addAll, List.mem_eraseDups, List.mem_append]

theorem addAll_append (queue : DiagnosticQueue) (ds ds' : List Diagnostic) :
    queue.addAll (ds ++ ds') = (queue.addAll ds).addAll ds' := List.foldl_append

theorem perm_flush (queue : DiagnosticQueue) : queue.flush.Perm queue.pending :=
  List.mergeSort_perm queue.pending _

theorem mem_flush {queue : DiagnosticQueue} {d : Diagnostic} : d ∈ queue.flush ↔ d ∈ queue.pending :=
  queue.perm_flush.mem_iff

theorem pairwise_flush (queue : DiagnosticQueue) :
    queue.flush.Pairwise fun a b => (a.order b).isLE :=
  List.pairwise_mergeSort Diagnostic.order_trans Diagnostic.order_total queue.pending

theorem filter_addAll (queue : DiagnosticQueue) (ds : List Diagnostic) (p : Diagnostic → Bool) :
    (queue.addAll ds).pending.filter p = (queue.pending.filter p ++ ds.filter p).eraseDups := by
  rw [pending_addAll, filter_eraseDups, List.filter_append]

theorem flush_addAll {queue : DiagnosticQueue} {ds ds' : List Diagnostic}
    (h : ∀ declaration, ds.filter (fun d => d.declaration = declaration) =
      ds'.filter (fun d => d.declaration = declaration)) :
    (queue.addAll ds).flush = (queue.addAll ds').flush := by
  refine mergeSort_eq_of_filter_ties Diagnostic.order_trans Diagnostic.order_total fun d => ?_
  have hties (queue : DiagnosticQueue) : queue.pending.filter (ties (fun a b => (a.order b).isLE) d) =
      (queue.pending.filter fun e => e.declaration = d.declaration).filter
        (ties (fun a b => (a.order b).isLE) d) := by
    rw [List.filter_filter]
    refine List.filter_congr fun e _ => ?_
    cases htie : ties (fun a b => (Diagnostic.order a b).isLE) d e with
    | false => rfl
    | true => simp [(Diagnostic.ties_iff.1 htie).1]
  rw [hties (queue.addAll ds), hties (queue.addAll ds'), filter_addAll queue ds,
    filter_addAll queue ds', h]

end DiagnosticQueue

end KotlinFakes
