import KotlinFakes.Proofs.Names

/-!
# Trimming and cutting

What is left of a text without the blanks at its ends, and what stands on the two sides of the first
separator.
-/

namespace KotlinFakes.Text

theorem stops_dropWhile (kind : Char → Bool) (text : List Char) :
    Stops kind (text.dropWhile kind) := by
  induction text with
  | nil => simp
  | cons c rest ih =>
      rw [List.dropWhile_cons]
      split
      · exact ih
      · next hc => simpa using hc

theorem Stops.dropWhile_eq {kind : Char → Bool} {text : List Char} (h : Stops kind text) :
    text.dropWhile kind = text := by
  cases text with
  | nil => rfl
  | cons c rest => rw [List.dropWhile_cons_of_neg (by simpa using h)]

theorem Stops.of_isPrefix {kind : Char → Bool} {part text : List Char} (h : Stops kind text)
    (hpart : part <+: text) : Stops kind part := by
  obtain ⟨rest, rfl⟩ := hpart
  cases part with
  | nil => simp
  | cons c part => simpa using h

theorem Stops.append {kind : Char → Bool} {text : List Char} (h : Stops kind text) (hne : text ≠ [])
    (rest : List Char) : Stops kind (text ++ rest) := by
  cases text with
  | nil => exact absurd rfl hne
  | cons c text => simpa using h

/-! ## Trimming -/

/-- Whether there is no blank at either end of a text. -/
def IsTrimmed (text : List Char) : Prop := Stops isBlank text ∧ Stops isBlank text.reverse

theorem isTrimmed_of_not_blank {text : List Char} (h : ∀ c ∈ text, isBlank c = false) :
    IsTrimmed text :=
  ⟨fun c hc => h c (List.mem_of_head? hc),
    fun c hc => h c (List.mem_reverse.1 (List.mem_of_head? hc))⟩

theorem trim_isPrefix (text : List Char) : trim text <+: text.dropWhile isBlank := by
  have h := (text.dropWhile isBlank).reverse.dropWhile_suffix isBlank
  simpa [trim] using List.reverse_prefix.2 h

theorem isTrimmed_trim (text : List Char) : IsTrimmed (trim text) := by
  refine ⟨(stops_dropWhile isBlank text).of_isPrefix (trim_isPrefix text), ?_⟩
  rw [trim, List.reverse_reverse]
  exact stops_dropWhile isBlank _

theorem mem_of_mem_trim {text : List Char} {c : Char} (h : c ∈ trim text) : c ∈ text :=
  (List.dropWhile_suffix _).mem ((trim_isPrefix text).mem h)

namespace IsTrimmed

variable {text before after : List Char}

theorem trim_eq (h : IsTrimmed text) : trim text = text := by
  rw [trim, h.1.dropWhile_eq, h.2.dropWhile_eq, List.reverse_reverse]

theorem append (hbefore : IsTrimmed before) (hafter : IsTrimmed after) (hb : before ≠ [])
    (ha : after ≠ []) (between : List Char) : IsTrimmed (before ++ between ++ after) := by
  refine ⟨?_, ?_⟩
  · rw [List.append_assoc]
    exact hbefore.1.append hb _
  · rw [List.reverse_append]
    exact hafter.2.append (by simpa using ha) _

end IsTrimmed

theorem head?_trim {text : List Char} (h : Stops isBlank text) (hne : trim text ≠ []) :
    (trim text).head? = text.head? := by
  obtain ⟨rest, hrest⟩ := h.dropWhile_eq ▸ trim_isPrefix text
  exact (List.head?_append_of_ne_nil _ hne).symm.trans (congrArg List.head? hrest)

theorem trim_append_of_blank {blanks : List Char} (h : ∀ c ∈ blanks, isBlank c) (text : List Char) :
    trim (blanks ++ text) = trim text := by
  rw [trim, List.dropWhile_append_of_pos h, trim]

theorem countP_trim (text : List Char) :
    (trim text).countP (fun c => !isBlank c) = text.countP fun c => !isBlank c := by
  have hdrop (text : List Char) : (text.dropWhile isBlank).countP (fun c => !isBlank c) =
      text.countP fun c => !isBlank c := by
    induction text with
    | nil => rfl
    | cons c rest ih => cases hc : isBlank c <;> simp [hc, ih]
  rw [trim, List.countP_reverse, hdrop, List.countP_reverse, hdrop]

/-! ## Cutting -/

theorem cut_eq_some {separator : Char} {text before after : List Char}
    (h : cut separator text = some (before, after)) :
    text = before ++ separator :: after ∧ separator ∉ before := by
  induction text generalizing before with
  | nil => simp [cut] at h
  | cons c rest ih =>
      by_cases hc : c = separator
      · simp only [cut, hc, if_true, Option.some.injEq, Prod.mk.injEq] at h
        obtain ⟨rfl, rfl⟩ := h
        simp [hc]
      · simp only [cut, hc, if_false, Option.map_eq_some_iff, Prod.mk.injEq] at h
        obtain ⟨⟨first, second⟩, hrest, rfl, rfl⟩ := h
        obtain ⟨rfl, hnot⟩ := ih hrest
        exact ⟨rfl, List.not_mem_cons_of_ne_of_not_mem (Ne.symm hc) hnot⟩

end KotlinFakes.Text
