/-!
# Computations in sequence

What is known of the parts of a computation when its outcome is known: of one that may fail, of one with a
state, and of one that may fail and keeps its state then.
-/

namespace KotlinFakes

variable {ε σ α β : Type}

theorem exists_of_bind_eq_ok {x : Except ε α} {f : α → Except ε β} {b : β}
    (h : x >>= f = .ok b) : ∃ a, x = .ok a ∧ f a = .ok b := by
  cases x with
  | error e => cases h
  | ok a => exact ⟨a, rfl, h⟩

theorem exists_of_bind {x : StateM σ α} {f : α → StateM σ β} {b : β} {state state' : σ}
    (h : (x >>= f) state = (b, state')) :
    ∃ a between, x state = (a, between) ∧ f a between = (b, state') :=
  ⟨(x state).1, (x state).2, rfl, h⟩

section Failing

variable {x : ExceptT ε (StateM σ) α} {f : α → ExceptT ε (StateM σ) β}
  {handler : ε → ExceptT ε (StateM σ) α} {state state' : σ}

theorem run_bind_ok {a : α} (h : x.run state = (.ok a, state')) :
    (x >>= f).run state = (f a).run state' := by
  have hbind : (x >>= f).run state = ExceptT.bindCont f (x.run state).1 (x.run state).2 := rfl
  rw [hbind, h]
  rfl

theorem run_bind_error {e : ε} (h : x.run state = (.error e, state')) :
    (x >>= f).run state = (.error e, state') := by
  have hbind : (x >>= f).run state = ExceptT.bindCont f (x.run state).1 (x.run state).2 := rfl
  rw [hbind, h]
  rfl

theorem run_bind_cases {result : Except ε β} (h : (x >>= f).run state = (result, state')) :
    (∃ e, x.run state = (.error e, state') ∧ result = .error e) ∨
      ∃ a between, x.run state = (.ok a, between) ∧ (f a).run between = (result, state') := by
  obtain ⟨first, between, hfirst⟩ : ∃ first between, x.run state = (first, between) :=
    ⟨_, _, rfl⟩
  cases first with
  | error e =>
      obtain ⟨rfl, rfl⟩ := Prod.mk.inj ((run_bind_error hfirst).symm.trans h)
      exact .inl ⟨e, hfirst, rfl⟩
  | ok a => exact .inr ⟨a, between, hfirst, (run_bind_ok hfirst).symm.trans h⟩

theorem exists_of_run_bind_eq_ok {b : β} (h : (x >>= f).run state = (.ok b, state')) :
    ∃ a between, x.run state = (.ok a, between) ∧ (f a).run between = (.ok b, state') := by
  obtain ⟨e, -, he⟩ | h := run_bind_cases h
  · cases he
  · exact h

theorem run_tryCatch_ok {a : α} (h : x.run state = (.ok a, state')) :
    (tryCatch x handler).run state = (.ok a, state') := by
  have hrun : x state = (.ok a, state') := h
  simp only [tryCatch, tryCatchThe, MonadExceptOf.tryCatch, ExceptT.tryCatch, ExceptT.run,
    ExceptT.mk, bind, StateT.bind, hrun]
  rfl

theorem run_tryCatch_error {e : ε} (h : x.run state = (.error e, state')) :
    (tryCatch x handler).run state = (handler e).run state' := by
  have hrun : x state = (.error e, state') := h
  simp only [tryCatch, tryCatchThe, MonadExceptOf.tryCatch, ExceptT.tryCatch, ExceptT.run,
    ExceptT.mk, bind, StateT.bind, hrun]

theorem run_tryCatch_cases {result : Except ε α}
    (h : (tryCatch x handler).run state = (result, state')) :
    (∃ a, x.run state = (.ok a, state') ∧ result = .ok a) ∨
      ∃ e between, x.run state = (.error e, between) ∧
        (handler e).run between = (result, state') := by
  obtain ⟨first, between, hfirst⟩ : ∃ first between, x.run state = (first, between) :=
    ⟨_, _, rfl⟩
  cases first with
  | error e => exact .inr ⟨e, between, hfirst, (run_tryCatch_error hfirst).symm.trans h⟩
  | ok a =>
      obtain ⟨rfl, rfl⟩ := Prod.mk.inj ((run_tryCatch_ok hfirst).symm.trans h)
      exact .inl ⟨a, hfirst, rfl⟩

end Failing

end KotlinFakes
