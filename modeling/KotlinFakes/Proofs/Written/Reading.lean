import KotlinFakes.Proofs.Written.Outline

/-!
# Reading written types

The text of a type tells its outline and how each of its names is written. A type begins with a word,
which may be empty, and the character behind the word says of which form the type is. Both `(T)?` and
`(T) -> R` begin with a list in parentheses, and only what stands behind the list tells them apart.
-/

namespace KotlinFakes.Outline

open Identifier Text

/-- Whether a character can occur in a name. -/
def inName (c : Char) : Bool := inDotted c || c = '*'

/-- Whether a character can begin a type. -/
def mayOpen (c : Char) : Bool := inName c || c = '('

/-- Whether a character does not end a type that stands before it. -/
def goesOn (c : Char) : Bool := !(c = ',' || c = ')' || c = '>')

abbrev EndsType (text : List Char) : Prop := Stops goesOn text

/-- Whether a name is written as a word. -/
def IsWord (policy : NamePolicy) (head : Head) : Prop :=
  head.text policy ≠ "" ∧ ∀ c ∈ (head.text policy).toList, inName c

/-- Whether every name in an outline is written as a word. -/
abbrev Clean (policy : NamePolicy) : Outline → Prop := Each (IsWord policy)

variable {policy : NamePolicy}

/-! ## Words and forms -/

/-- The word that a type begins with. -/
def word (policy : NamePolicy) : Outline → String
  | .named head _ _ => head.text policy
  | .function _ isSuspend _ isNullable => if isSuspend && !isNullable then "suspend" else ""
  | .out _ => "out"

/-- What a function type is written as behind its opening parenthesis. -/
def afterOpen (policy : NamePolicy) (params : List Outline) (result : Outline) : List Char :=
  (joinWith ", " (texts policy params)).toList ++ ')' :: (" -> ".toList ++ (text policy result).toList)

/-- What follows the word that a type begins with. -/
def afterWord (policy : NamePolicy) : Outline → List Char
  | .named _ args isNullable =>
    (NamePolicy.bracketed (texts policy args)).toList ++ if isNullable then ['?'] else []
  | .function params isSuspend result false =>
    (if isSuspend then [' '] else []) ++ '(' :: afterOpen policy params result
  | .function params isSuspend result true =>
    '(' :: ((text policy (.function params isSuspend result false)).toList ++ [')', '?'])
  | .out inner => ' ' :: (text policy inner).toList

theorem toList_text (s : Outline) :
    (text policy s).toList = (word policy s).toList ++ afterWord policy s := by
  cases s with
  | named head args isNullable => cases isNullable <;> simp [text, word, afterWord]
  | function params isSuspend result isNullable =>
      cases isNullable <;> cases isSuspend <;> simp [text, word, afterWord, afterOpen]
  | out inner => simp [text, word, afterWord]

/-- What the character behind its word says about a type. -/
inductive Form where
  /-- A name, with or without arguments. -/
  | named
  /-- A function type or a nullable one. -/
  | grouped
  /-- A suspending function type or a projection. -/
  | spaced
  deriving DecidableEq

def form : Outline → Form
  | .named .. => .named
  | .function _ isSuspend _ isNullable => if isSuspend && !isNullable then .spaced else .grouped
  | .out _ => .spaced

/-- The form as it is read off the characters behind the word. -/
def readForm : List Char → Form
  | '(' :: _ => .grouped
  | ' ' :: _ => .spaced
  | _ => .named

theorem readForm_of_endsType {r : List Char} (hr : EndsType r) : readForm r = .named := by
  unfold readForm
  split
  · exact absurd hr (by simp; decide)
  · exact absurd hr (by simp; decide)
  · rfl

theorem readForm_afterWord (policy : NamePolicy) (s : Outline) {r : List Char} (hr : EndsType r) :
    readForm (afterWord policy s ++ r) = form s := by
  cases s with
  | named head args isNullable =>
      cases args with
      | nil =>
          cases isNullable with
          | false => simpa [afterWord, texts, NamePolicy.bracketed, form] using readForm_of_endsType hr
          | true => rfl
      | cons first rest => simp [afterWord, texts, NamePolicy.bracketed, readForm, form]
  | function params isSuspend result isNullable => cases isNullable <;> cases isSuspend <;> rfl
  | out inner => rfl

theorem stops_afterWord (s : Outline) {r : List Char} (hr : EndsType r) :
    Stops inName (afterWord policy s ++ r) := by
  have hend : Stops inName r := fun c hc => by
    have hgoes := hr c hc
    simp only [goesOn, Bool.not_eq_false', Bool.or_eq_true, decide_eq_true_eq] at hgoes
    obtain (rfl | rfl) | rfl := hgoes <;> decide
  cases s with
  | named head args isNullable =>
      cases args with
      | nil =>
          cases isNullable with
          | false => simpa [afterWord, texts, NamePolicy.bracketed] using hend
          | true => exact stops_cons.2 (by decide)
      | cons first rest =>
          simp only [afterWord, texts, NamePolicy.bracketed, List.isEmpty_cons, Bool.false_eq_true,
            ↓reduceIte, String.toList_append]
          exact stops_cons.2 (by decide)
  | function params isSuspend result isNullable =>
      cases isNullable <;> cases isSuspend <;> exact stops_cons.2 (by decide)
  | out inner => exact stops_cons.2 (by decide)

theorem inName_of_mem_word {s : Outline} (hs : Clean policy s) :
    ∀ c ∈ (word policy s).toList, inName c := by
  cases hs with
  | named _ hhead => exact hhead.2
  | function isSuspend isNullable =>
      have hall : ∀ a b : Bool,
          (if a && !b then "suspend" else "").toList.all inName := by decide
      exact List.all_eq_true.1 (hall isSuspend isNullable)
  | out =>
      have hout : "out".toList.all inName := by decide
      exact List.all_eq_true.1 hout

theorem word_and_form {s t : Outline} (hs : Clean policy s) (ht : Clean policy t) {r r' : List Char}
    (hr : EndsType r) (hr' : EndsType r')
    (h : (text policy s).toList ++ r = (text policy t).toList ++ r') :
    word policy s = word policy t ∧ form s = form t ∧
      afterWord policy s ++ r = afterWord policy t ++ r' := by
  rw [toList_text, toList_text, List.append_assoc, List.append_assoc] at h
  obtain ⟨hword, hafter⟩ := run_append_inj (inName_of_mem_word hs) (inName_of_mem_word ht)
    (stops_afterWord s hr) (stops_afterWord t hr') h
  refine ⟨String.toList_inj.1 hword, ?_, hafter⟩
  rw [← readForm_afterWord policy s hr, ← readForm_afterWord policy t hr', hafter]

/-! ## Reading each form -/

/-- Whether two names are written alike. -/
def SameText (policy : NamePolicy) (head head' : Head) : Prop :=
  head.text policy = head'.text policy

/-- An outline is read up to the names that are written alike. -/
abbrev ReadableOutline (policy : NamePolicy) (s : Outline) : Prop :=
  ReadableUpTo (Alike (SameText policy)) (Clean policy) (fun s => (text policy s).toList) EndsType s

theorem exists_cons_text {s : Outline} (hs : Clean policy s) :
    ∃ c rest, (text policy s).toList = c :: rest ∧ mayOpen c := by
  have hword := inName_of_mem_word hs
  rw [toList_text]
  cases hw : (word policy s).toList with
  | cons c rest => exact ⟨c, _, rfl, by simp [mayOpen, hword c (by simp [hw])]⟩
  | nil =>
      -- Only a list in parentheses has no word in front of it.
      cases hs with
      | named _ hhead => exact absurd (String.toList_inj.1 hw) hhead.1
      | function isSuspend isNullable =>
          cases isNullable <;> cases isSuspend <;>
            first | exact ⟨_, _, rfl, by decide⟩ | simp [word] at hw
      | out => simp [word] at hw

theorem texts_readable {ss ts : List Outline} (hss : ∀ s ∈ ss, Clean policy s)
    (hread : ∀ s ∈ ss, ReadableOutline policy s) (hts : ∀ t ∈ ts, Clean policy t) {close : Char}
    (hclose : close = ')' ∨ close = '>') {r r' : List Char}
    (h : (joinWith ", " (texts policy ss)).toList ++ close :: r =
      (joinWith ", " (texts policy ts)).toList ++ close :: r') :
    AlikeAll (SameText policy) ss ts ∧ r = r' := by
  have hend (rest : List Char) : EndsType (close :: rest) ∧ (close :: rest).head? ≠ some ',' ∧
      Stops mayOpen (close :: rest) := by
    have hstops : goesOn close = false ∧ close ≠ ',' ∧ mayOpen close = false := by
      obtain rfl | rfl := hclose <;> decide
    exact ⟨stops_cons.2 hstops.1, by simpa using hstops.2.1, stops_cons.2 hstops.2.2⟩
  rw [texts_eq_map, texts_eq_map] at h
  have := joinWith_readableUpTo ", " ',' (by simp) (fun _ => stops_cons.2 (by decide))
    (fun _ => exists_cons_text) hss hread hts (hend r) (hend r') h
  exact ⟨alikeAll_iff.2 this.1, (List.cons.inj this.2).2⟩

theorem mark_append_inj {a b : Bool} {r r' : List Char} (hr : EndsType r) (hr' : EndsType r')
    (h : (if a then ['?'] else []) ++ r = (if b then ['?'] else []) ++ r') : a = b ∧ r = r' := by
  have hno {r : List Char} (hr : EndsType r) (rest : List Char) : r ≠ '?' :: rest := by
    rintro rfl
    exact absurd (stops_cons.1 hr) (by decide)
  cases a <;> cases b <;> simp only [↓reduceIte, Bool.false_eq_true, List.nil_append,
    List.cons_append, List.cons.injEq, true_and] at h
  · exact ⟨rfl, h⟩
  · exact absurd h (hno hr _)
  · exact absurd h.symm (hno hr' _)
  · exact ⟨rfl, h⟩

theorem afterName_inj {args args' : List Outline} (hargs : ∀ s ∈ args, Clean policy s)
    (hread : ∀ s ∈ args, ReadableOutline policy s) (hargs' : ∀ s ∈ args', Clean policy s)
    {a b : Bool} {r r' : List Char} (hr : EndsType r) (hr' : EndsType r')
    (h : (NamePolicy.bracketed (texts policy args)).toList ++ ((if a then ['?'] else []) ++ r) =
      (NamePolicy.bracketed (texts policy args')).toList ++ ((if b then ['?'] else []) ++ r')) :
    AlikeAll (SameText policy) args args' ∧ a = b ∧ r = r' := by
  have hangle {mark : Bool} {r : List Char} (hr : EndsType r) (rest : List Char) :
      (if mark then ['?'] else []) ++ r ≠ '<' :: rest := by
    cases mark with
    | false =>
        rintro rfl
        exact absurd (stops_cons.1 hr) (by decide)
    | true => simp
  cases args with
  | nil =>
      cases args' with
      | nil =>
          obtain ⟨rfl, rfl⟩ := mark_append_inj hr hr' (by simpa [texts, NamePolicy.bracketed] using h)
          exact ⟨trivial, rfl, rfl⟩
      | cons => exact absurd (by simpa [texts, NamePolicy.bracketed] using h) (hangle hr _)
  | cons first rest =>
      cases args' with
      | nil => exact absurd (by simpa [texts, NamePolicy.bracketed] using h.symm) (hangle hr' _)
      | cons first' rest' =>
          have hlist : (joinWith ", " (texts policy (first :: rest))).toList ++
                '>' :: ((if a then ['?'] else []) ++ r) =
              (joinWith ", " (texts policy (first' :: rest'))).toList ++
                '>' :: ((if b then ['?'] else []) ++ r') := by
            simpa [texts, NamePolicy.bracketed] using h
          obtain ⟨hall, hmark⟩ := texts_readable hargs hread hargs' (.inr rfl) hlist
          exact ⟨hall, mark_append_inj hr hr' hmark⟩

theorem afterOpen_ne_marked {params : List Outline} {result s : Outline}
    (hparams : ∀ s ∈ params, Clean policy s) (hs : Clean policy s)
    (hread : (∀ s ∈ params, ReadableOutline policy s) ∨ ReadableOutline policy s)
    (r r' : List Char) :
    afterOpen policy params result ++ r ≠ (text policy s).toList ++ [')', '?'] ++ r' := by
  intro h
  have hlist : (joinWith ", " (texts policy params)).toList ++
        ')' :: (" -> ".toList ++ (text policy result).toList ++ r) =
      (joinWith ", " (texts policy [s])).toList ++ ')' :: '?' :: r' := by
    simpa [afterOpen, texts, joinWith] using h
  obtain hread | hread := hread
  · obtain ⟨-, hrest⟩ := texts_readable hparams hread (by simpa using hs) (.inl rfl) hlist
    simp at hrest
  · obtain ⟨-, hrest⟩ := texts_readable (by simpa using hs) (by simpa using hread) hparams (.inl rfl)
      hlist.symm
    simp at hrest

theorem readable_function {params : List Outline} {result : Outline} (isSuspend : Bool)
    (hparams : ∀ s ∈ params, Clean policy s) (hresult : Clean policy result)
    (hreads : ∀ s ∈ params, ReadableOutline policy s) (hread : ReadableOutline policy result) :
    ReadableOutline policy (.function params isSuspend result false) := by
  intro t ht r r' hr hr' h
  obtain ⟨hword, hform, hafter⟩ :=
    word_and_form (.function isSuspend false hparams hresult) ht hr hr' h
  cases ht with
  | named => cases isSuspend <;> cases hform
  | out =>
      cases isSuspend with
      | false => cases hform
      | true => simp [word] at hword
  | @function params' result' isSuspend' isNullable' hparams' hresult' =>
      cases isNullable' with
      | false =>
          have hsuspend : isSuspend = isSuspend' := by
            cases isSuspend <;> cases isSuspend' <;> first | rfl | cases hform
          subst hsuspend
          simp only [afterWord, afterOpen, List.append_assoc, List.append_cancel_left_eq,
            List.cons_append, List.cons.injEq, true_and] at hafter
          obtain ⟨hall, hafter⟩ := texts_readable hparams hreads hparams' (.inl rfl) hafter
          obtain ⟨halike, hrest⟩ := hread hresult' hr hr' (List.append_cancel_left hafter)
          exact ⟨⟨hall, rfl, halike, rfl⟩, hrest⟩
      | true =>
          have hplain : isSuspend = false := by
            cases isSuspend with
            | false => rfl
            | true => simp [form] at hform
          subst hplain
          have hinner := Each.function isSuspend' false hparams' hresult'
          exact absurd (List.cons.inj hafter).2
            (afterOpen_ne_marked hparams hinner (.inl hreads) r r')

theorem readable_marked {params : List Outline} {result : Outline} (isSuspend : Bool)
    (hparams : ∀ s ∈ params, Clean policy s) (hresult : Clean policy result)
    (hreads : ∀ s ∈ params, ReadableOutline policy s) (hread : ReadableOutline policy result) :
    ReadableOutline policy (.function params isSuspend result true) := by
  have hplain := Each.function isSuspend false hparams hresult
  have hreadPlain := readable_function isSuspend hparams hresult hreads hread
  intro t ht r r' hr hr' h
  obtain ⟨-, hform, hafter⟩ :=
    word_and_form (.function isSuspend true hparams hresult) ht hr hr' h
  cases ht with
  | named | out => simp [form] at hform
  | @function params' result' isSuspend' isNullable' hparams' hresult' =>
      cases isNullable' with
      | false =>
          have hgrouped : isSuspend' = false := by
            cases isSuspend' with
            | false => rfl
            | true => simp [form] at hform
          subst hgrouped
          exact absurd (List.cons.inj hafter).2.symm
            (afterOpen_ne_marked hparams' hplain (.inr hreadPlain) r' r)
      | true =>
          simp only [afterWord, List.cons_append, List.append_assoc, List.cons.injEq,
            true_and] at hafter
          obtain ⟨⟨hall, hsuspend, halike, -⟩, hrest⟩ :=
            hreadPlain (.function isSuspend' false hparams' hresult') (stops_cons.2 (by decide))
              (stops_cons.2 (by decide)) hafter
          exact ⟨⟨hall, hsuspend, halike, rfl⟩, by simpa using hrest⟩

/-- A type is read from its text up to how its names are written. -/
theorem readable {s : Outline} (hs : Clean policy s) : ReadableOutline policy s := by
  induction hs with
  | @named head args isNullable hhead hargs ih =>
      intro t ht r r' hr hr' h
      obtain ⟨hword, hform, hafter⟩ := word_and_form (.named isNullable hhead hargs) ht hr hr' h
      cases ht with
      | named isNullable' _ hargs' =>
          simp only [afterWord, List.append_assoc] at hafter
          obtain ⟨hall, hmark, hrest⟩ := afterName_inj hargs ih hargs' hr hr' hafter
          exact ⟨⟨hword, hall, hmark⟩, hrest⟩
      | function isSuspend isNullable' => cases isSuspend <;> cases isNullable' <;> cases hform
      | out => cases hform
  | function isSuspend isNullable hparams hresult ihparams ihresult =>
      cases isNullable with
      | false => exact readable_function isSuspend hparams hresult ihparams ihresult
      | true => exact readable_marked isSuspend hparams hresult ihparams ihresult
  | out hinner ih =>
      intro t ht r r' hr hr' h
      obtain ⟨hword, hform, hafter⟩ := word_and_form (.out hinner) ht hr hr' h
      cases ht with
      | named => cases hform
      | function isSuspend isNullable =>
          cases isSuspend <;> cases isNullable <;> simp [word] at hword
      | out hinner' =>
          simp only [afterWord, List.cons_append, List.cons.injEq, true_and] at hafter
          exact ih hinner' hr hr' hafter

end KotlinFakes.Outline
