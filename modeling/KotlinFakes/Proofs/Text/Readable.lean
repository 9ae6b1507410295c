import KotlinFakes.Text.Split
import Mathlib.Data.List.Forall2

/-!
# Readable texts

When texts are written one after the other, a reader has to see where each of them ends. A thing is
readable if its text, with more text behind it, can be mistaken neither for the text of another thing
nor for a longer or shorter text. What may stand behind it is a condition of its own, because most
texts end where a character stands that cannot go on with them.
-/

namespace KotlinFakes.Text

/-- Whether a text has no character of some kind at its start. -/
def Stops (kind : Char → Bool) (text : List Char) : Prop :=
  ∀ c, text.head? = some c → kind c = false

@[simp] theorem stops_nil (kind : Char → Bool) : Stops kind [] := by simp [Stops]

@[simp] theorem stops_cons {kind : Char → Bool} {c : Char} {rest : List Char} :
    Stops kind (c :: rest) ↔ kind c = false := by
  simp [Stops]

theorem run_append_inj {kind : Char → Bool} {a b r s : List Char} (ha : ∀ c ∈ a, kind c)
    (hb : ∀ c ∈ b, kind c) (hr : Stops kind r) (hs : Stops kind s) (h : a ++ r = b ++ s) :
    a = b ∧ r = s := by
  induction a generalizing b with
  | nil =>
      cases b with
      | nil => exact ⟨rfl, h⟩
      | cons c b =>
          rw [List.nil_append, List.cons_append] at h
          simp [h, hb c] at hr
  | cons c a ih =>
      cases b with
      | nil =>
          rw [List.nil_append, List.cons_append] at h
          simp [← h, ha c] at hs
      | cons d b =>
          simp only [List.cons_append, List.cons.injEq] at h
          obtain ⟨rfl, h⟩ := h
          have := ih (fun c hc => ha c (List.mem_cons_of_mem _ hc))
            (fun c hc => hb c (List.mem_cons_of_mem _ hc)) h
          exact ⟨by rw [this.1], this.2⟩

section Readable

variable {α : Type} {rel : α → α → Prop} {good : α → Prop} {write : α → List Char}
  {follow : List Char → Prop}

/-- Whether a thing is told by its text from every good one to which it is not related, when what
    follows is as it should be. -/
def ReadableUpTo (rel : α → α → Prop) (good : α → Prop) (write : α → List Char)
    (follow : List Char → Prop) (x : α) : Prop :=
  ∀ ⦃y⦄, good y → ∀ ⦃r s⦄, follow r → follow s → write x ++ r = write y ++ s → rel x y ∧ r = s

/-- Whether a thing is told from every other good one by its text. -/
abbrev Readable (good : α → Prop) (write : α → List Char) (follow : List Char → Prop) (x : α) :
    Prop :=
  ReadableUpTo (· = ·) good write follow x

/-- A list is readable whose elements all begin with the same character, if what follows the list does
    not. -/
theorem flatMap_readableUpTo {mark : Char} (hmark : ∀ x, (write x).head? = some mark)
    (hfollow : ∀ x text, follow (write x ++ text)) {xs ys : List α}
    (hxs : ∀ x ∈ xs, ReadableUpTo rel good write follow x) (hys : ∀ y ∈ ys, good y)
    {r s : List Char} (hr : follow r ∧ r.head? ≠ some mark) (hs : follow s ∧ s.head? ≠ some mark)
    (h : xs.flatMap write ++ r = ys.flatMap write ++ s) : List.Forall₂ rel xs ys ∧ r = s := by
  have hhead (z : α) (zs : List α) (t : List Char) :
      ((z :: zs).flatMap write ++ t).head? = some mark := by
    simp [hmark z]
  -- What follows an element is again an element or the end of the list.
  have hrest (zs : List α) {t : List Char} (ht : follow t) : follow (zs.flatMap write ++ t) := by
    cases zs with
    | nil => exact ht
    | cons z zs => simpa using hfollow z (zs.flatMap write ++ t)
  induction xs generalizing ys with
  | nil =>
      cases ys with
      | nil => exact ⟨.nil, h⟩
      | cons y ys => exact absurd (by rw [← hhead y ys s, ← h]; rfl) hr.2
  | cons x xs ih =>
      cases ys with
      | nil => exact absurd (by rw [← hhead x xs r, h]; rfl) hs.2
      | cons y ys =>
          simp only [List.flatMap_cons, List.append_assoc] at h
          obtain ⟨hrel, hxy⟩ := hxs x (by simp) (hys y (by simp)) (hrest xs hr.1) (hrest ys hs.1) h
          obtain ⟨hrels, hrs⟩ := ih (fun x hx => hxs x (List.mem_cons_of_mem _ hx))
            (fun y hy => hys y (List.mem_cons_of_mem _ hy)) hxy
          exact ⟨.cons hrel hrels, hrs⟩

theorem flatMap_readable {mark : Char} (hmark : ∀ x, (write x).head? = some mark)
    (hfollow : ∀ x text, follow (write x ++ text)) {xs ys : List α}
    (hxs : ∀ x ∈ xs, Readable good write follow x) (hys : ∀ y ∈ ys, good y) {r s : List Char}
    (hr : follow r ∧ r.head? ≠ some mark) (hs : follow s ∧ s.head? ≠ some mark)
    (h : xs.flatMap write ++ r = ys.flatMap write ++ s) : xs = ys ∧ r = s := by
  have := flatMap_readableUpTo hmark hfollow hxs hys hr hs h
  rwa [List.forall₂_eq_eq_eq] at this

theorem toList_joinWith (separator text : String) (rest : List String) :
    (joinWith separator (text :: rest)).toList =
      text.toList ++ rest.flatMap fun next => separator.toList ++ next.toList := by
  induction rest generalizing text with
  | nil => simp [joinWith]
  | cons next rest ih => simp [joinWith, ih]

theorem joinWith_readableUpTo (separator : String) (mark : Char) {write : α → String}
    (hmark : separator.toList.head? = some mark)
    (hfollow : ∀ text, follow (separator.toList ++ text)) {opens : Char → Bool}
    (hopens : ∀ x, good x → ∃ c rest, (write x).toList = c :: rest ∧ opens c) {xs ys : List α}
    (hgood : ∀ x ∈ xs, good x)
    (hxs : ∀ x ∈ xs, ReadableUpTo rel good (fun x => (write x).toList) follow x) (hys : ∀ y ∈ ys, good y)
    {r s : List Char} (hr : follow r ∧ r.head? ≠ some mark ∧ Stops opens r)
    (hs : follow s ∧ s.head? ≠ some mark ∧ Stops opens s)
    (h : (joinWith separator (xs.map write)).toList ++ r =
      (joinWith separator (ys.map write)).toList ++ s) : List.Forall₂ rel xs ys ∧ r = s := by
  let item (x : α) : List Char := separator.toList ++ (write x).toList
  have hitem (x : α) : (item x).head? = some mark := by simp [item, hmark]
  have hjoin (x : α) (xs : List α) :
      (joinWith separator ((x :: xs).map write)).toList = (write x).toList ++ xs.flatMap item := by
    simp [toList_joinWith, item, List.flatMap_map]
  have hread {x : α} (hx : ReadableUpTo rel good (fun x => (write x).toList) follow x) :
      ReadableUpTo rel good item follow x := by
    intro y hy r s hr hs h
    exact hx hy hr hs (by simpa [item] using h)
  have hrest (zs : List α) {t : List Char} (ht : follow t) : follow (zs.flatMap item ++ t) := by
    cases zs with
    | nil => exact ht
    | cons z zs => simpa [item] using hfollow ((write z).toList ++ (zs.flatMap item ++ t))
  have hempty {x : α} (hx : good x) {xs : List α} {r s : List Char} (hs : Stops opens s) :
      s ≠ (joinWith separator ((x :: xs).map write)).toList ++ r := by
    obtain ⟨c, rest, hc, ho⟩ := hopens x hx
    rintro rfl
    rw [hjoin, hc] at hs
    simp [ho] at hs
  cases xs with
  | nil =>
      cases ys with
      | nil => exact ⟨.nil, by simpa [joinWith] using h⟩
      | cons y ys => exact absurd (by simpa [joinWith] using h) (hempty (hys y (by simp)) hr.2.2)
  | cons x xs =>
      cases ys with
      | nil => exact absurd (by simpa [joinWith] using h.symm) (hempty (hgood x (by simp)) hs.2.2)
      | cons y ys =>
          rw [hjoin, hjoin, List.append_assoc, List.append_assoc] at h
          obtain ⟨hrel, hxy⟩ := hxs x (by simp) (hys y (by simp)) (hrest xs hr.1) (hrest ys hs.1) h
          obtain ⟨hrels, hrs⟩ := flatMap_readableUpTo hitem
            (fun z text => by simpa [item] using hfollow ((write z).toList ++ text))
            (fun x hx => hread (hxs x (List.mem_cons_of_mem _ hx)))
            (fun y hy => hys y (List.mem_cons_of_mem _ hy)) ⟨hr.1, hr.2.1⟩ ⟨hs.1, hs.2.1⟩ hxy
          exact ⟨.cons hrel hrels, hrs⟩

theorem joinWith_readable (separator : String) (mark : Char) {write : α → String}
    (hmark : separator.toList.head? = some mark)
    (hfollow : ∀ text, follow (separator.toList ++ text)) {opens : Char → Bool}
    (hopens : ∀ x, good x → ∃ c rest, (write x).toList = c :: rest ∧ opens c) {xs ys : List α}
    (hgood : ∀ x ∈ xs, good x)
    (hxs : ∀ x ∈ xs, Readable good (fun x => (write x).toList) follow x) (hys : ∀ y ∈ ys, good y)
    {r s : List Char} (hr : follow r ∧ r.head? ≠ some mark ∧ Stops opens r)
    (hs : follow s ∧ s.head? ≠ some mark ∧ Stops opens s)
    (h : (joinWith separator (xs.map write)).toList ++ r =
      (joinWith separator (ys.map write)).toList ++ s) : xs = ys ∧ r = s := by
  have := joinWith_readableUpTo separator mark hmark hfollow hopens hgood hxs hys hr hs h
  rwa [List.forall₂_eq_eq_eq] at this

end Readable

end KotlinFakes.Text
