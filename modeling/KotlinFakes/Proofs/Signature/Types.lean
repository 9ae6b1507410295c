import KotlinFakes.Proofs.WellNamed
import KotlinFakes.Signature.Basic

/-!
# Reading types in signatures

The text of a well-named type is readable: it can be told from every other one, and the reader sees
where it ends. A type begins with a word, which may be empty, and the character after the word says of
which form the type is. Both `(X)?` and `(X) -> R` begin with a list in parentheses, and only what
stands behind the list tells them apart.
-/

namespace KotlinFakes.Signature

open Text Identifier

theorem typeTexts_eq_map (ts : List Ty) : typeTexts ts = ts.map typeText := by
  induction ts with
  | nil => rfl
  | cons t ts ih => rw [typeTexts, ih, List.map_cons]

/-- Whether a character can occur in the word that a type begins with. -/
def inWord (c : Char) : Bool := inDotted c || c = '*'

/-- Whether a character can begin a type or go on with one. -/
def mayExtend (c : Char) : Bool := inWord c || c = '<' || c = '(' || c = '$'

/-- Whether a text cannot go on with a type that stands before it. A blank can only if a parenthesis
    follows, because the type may then be a word `suspend`. -/
def EndsType (text : List Char) : Prop := Stops mayExtend text ∧ ¬[' ', '('] <+: text

/-- The word that a type begins with. -/
def word : Ty → String
  | .primitive p => "kotlin." ++ p.name
  | .apply name _ | .named name => name.full
  | .function _ isSuspend _ => if isSuspend then "suspend" else ""
  | .nullable _ | .param _ => ""

/-- What follows the word that a type begins with. -/
def afterWord : Ty → List Char
  | .primitive _ | .named _ => []
  | .apply _ args => '<' :: ((joinWith ", " (typeTexts args)).toList ++ ['>'])
  | .function params isSuspend result =>
    (if isSuspend then [' '] else []) ++
      '(' :: ((joinWith ", " (typeTexts params)).toList ++ ") -> ".toList ++
        (typeText result).toList)
  | .nullable inner => '(' :: ((typeText inner).toList ++ ")?".toList)
  | .param name => '$' :: name.toList

theorem toList_typeText (t : Ty) : (typeText t).toList = (word t).toList ++ afterWord t := by
  cases t with
  | primitive p => simp [typeText, word, afterWord]
  | nullable inner => simp [typeText, word, afterWord]
  | apply name args => simp [typeText, word, afterWord]
  | function params isSuspend result => cases isSuspend <;> simp [typeText, word, afterWord]
  | param name => simp [typeText, word, afterWord]
  | named name => simp [typeText, word, afterWord]

/-- What the characters after its word say about a type. -/
inductive Form where
  /-- A class or a primitive. -/
  | plain
  /-- A class with arguments. -/
  | applied
  /-- A nullable type or a function type. -/
  | grouped
  /-- A suspending function type. -/
  | suspended
  /-- A type parameter. -/
  | parameter
  deriving DecidableEq

/-- The form of a type. -/
def form : Ty → Form
  | .primitive _ | .named _ => .plain
  | .apply .. => .applied
  | .nullable _ => .grouped
  | .function _ isSuspend _ => if isSuspend then .suspended else .grouped
  | .param _ => .parameter

/-- The form as it is read off the characters after the word. -/
def readForm : List Char → Form
  | '<' :: _ => .applied
  | '(' :: _ => .grouped
  | ' ' :: '(' :: _ => .suspended
  | '$' :: _ => .parameter
  | _ => .plain

theorem readForm_afterWord (t : Ty) {r : List Char} (hr : EndsType r) :
    readForm (afterWord t ++ r) = form t := by
  have hplain : readForm r = .plain := by
    unfold readForm
    obtain ⟨hstops, hblank⟩ := hr
    split <;> simp_all [mayExtend]
  cases t with
  | primitive p => simpa [afterWord, form] using hplain
  | named name => simpa [afterWord, form] using hplain
  | apply name args => rfl
  | nullable inner => rfl
  | function params isSuspend result => cases isSuspend <;> rfl
  | param name => rfl

theorem EndsType.stops {r : List Char} (hr : EndsType r) : Stops inWord r := fun c hc => by
  have := hr.1 c hc
  simp only [mayExtend, Bool.or_eq_false_iff] at this
  exact this.1.1.1

theorem inWord_of_mayFollow {c : Char} (h : mayFollow c) : inWord c := by
  simp [inWord, inDotted, h]

theorem stops_afterWord (t : Ty) {r : List Char} (hr : EndsType r) :
    Stops inWord (afterWord t ++ r) := by
  cases t with
  | primitive p => simpa [afterWord] using hr.stops
  | named name => simpa [afterWord] using hr.stops
  | apply name args => simp [afterWord]; decide
  | nullable inner => simp [afterWord]; decide
  | function params isSuspend result => cases isSuspend <;> simp [afterWord] <;> decide
  | param name => simp [afterWord]; decide

theorem ofFullName?_name (p : Primitive) : Primitive.ofFullName? ("kotlin." ++ p.name) = some p := by
  cases p <;> rfl

theorem inWord_of_isCut {name : QualifiedName} (h : name.IsCut) :
    ∀ c ∈ name.full.toList, inWord c := fun c hc => by
  rw [inWord, inDotted_of_isDotted h.isDotted_full hc, Bool.true_or]

theorem inWord_of_mem_word {t : Ty} (ht : t.WellNamed) : ∀ c ∈ (word t).toList, inWord c := by
  cases ht with
  | primitive p => cases p <;> exact List.all_eq_true.1 (by decide)
  | nullable h => simp [word]
  | apply hname hargs => exact inWord_of_isCut hname
  | function isSuspend hparams hresult => cases isSuspend <;> simp [word]; decide
  | param hname => simp [word]
  | star => exact List.all_eq_true.1 (by decide)
  | named hname h => exact inWord_of_isCut hname

theorem full_ne_star {name : QualifiedName} (h : name.IsCut) : name.full ≠ "*" := by
  obtain ⟨c, rest, hc, hstart⟩ := exists_cons_of_isDotted h.isDotted_full
  intro hstar
  rw [hstar] at hc
  obtain ⟨rfl, -⟩ := List.cons.inj hc
  exact absurd hstart (by decide)

theorem plain_cases {t : Ty} (ht : t.WellNamed) (hform : form t = .plain) :
    (∃ p, t = .primitive p ∧ Primitive.ofFullName? (word t) = some p) ∨
      ∃ name : QualifiedName, t = .named name ∧ Primitive.ofFullName? (word t) = none ∧
        (name = .unpackaged "*" ∨ name.IsCut) := by
  cases ht with
  | nullable | apply | param => simp [form] at hform
  | function isSuspend => cases isSuspend <;> simp [form] at hform
  | primitive p => exact .inl ⟨p, rfl, ofFullName?_name p⟩
  | star => exact .inr ⟨.unpackaged "*", rfl, rfl, .inl rfl⟩
  | named hname hnone => exact .inr ⟨_, rfl, hnone, .inr hname⟩

theorem eq_of_plain {s t : Ty} (hs : s.WellNamed) (ht : t.WellNamed) (hsf : form s = .plain)
    (htf : form t = .plain) (h : word s = word t) : s = t := by
  obtain ⟨p, rfl, hp⟩ | ⟨n, rfl, hn, hname⟩ := plain_cases hs hsf
  · obtain ⟨q, rfl, hq⟩ | ⟨m, rfl, hm, -⟩ := plain_cases ht htf
    · rw [h, hq, Option.some.injEq] at hp
      rw [hp]
    · rw [h, hm] at hp
      cases hp
  · obtain ⟨q, rfl, hq⟩ | ⟨m, rfl, hm, hother⟩ := plain_cases ht htf
    · rw [h, hq] at hn
      cases hn
    · change n.full = m.full at h
      obtain rfl | hname := hname
      · obtain rfl | hother := hother
        · rfl
        · exact absurd h.symm (full_ne_star hother)
      · obtain rfl | hother := hother
        · exact absurd h (full_ne_star hname)
        · rw [hname.eq_of_full_eq hother h]

theorem exists_of_applied {t : Ty} (h : form t = .applied) : ∃ name args, t = .apply name args := by
  cases t with
  | apply name args => exact ⟨name, args, rfl⟩
  | function params isSuspend result => cases isSuspend <;> simp [form] at h
  | _ => simp [form] at h

theorem exists_of_grouped {t : Ty} (h : form t = .grouped) :
    (∃ inner, t = .nullable inner) ∨ ∃ params result, t = .function params false result := by
  cases t with
  | nullable inner => exact .inl ⟨inner, rfl⟩
  | function params isSuspend result =>
      cases isSuspend with
      | false => exact .inr ⟨params, result, rfl⟩
      | true => simp [form] at h
  | _ => simp [form] at h

theorem exists_of_suspended {t : Ty} (h : form t = .suspended) :
    ∃ params result, t = .function params true result := by
  cases t with
  | function params isSuspend result =>
      cases isSuspend with
      | false => simp [form] at h
      | true => exact ⟨params, result, rfl⟩
  | _ => simp [form] at h

theorem exists_of_parameter {t : Ty} (h : form t = .parameter) : ∃ name, t = .param name := by
  cases t with
  | param name => exact ⟨name, rfl⟩
  | function params isSuspend result => cases isSuspend <;> simp [form] at h
  | _ => simp [form] at h

theorem exists_cons_typeText {t : Ty} (ht : t.WellNamed) :
    ∃ c rest, (typeText t).toList = c :: rest ∧ mayExtend c := by
  have hword := inWord_of_mem_word ht
  rw [toList_typeText]
  cases hw : (word t).toList with
  | cons c rest => exact ⟨c, _, rfl, by simp [mayExtend, hword c (by simp [hw])]⟩
  | nil =>
      -- Only a type in parentheses and a type parameter have no word before their mark.
      cases ht with
      | primitive p => cases p <;> simp [word, Primitive.name] at hw
      | nullable h => exact ⟨_, _, rfl, by decide⟩
      | apply hname =>
          obtain ⟨c, rest, hc, -⟩ := exists_cons_of_isDotted hname.isDotted_full
          simp [word, hc] at hw
      | function isSuspend =>
          cases isSuspend with
          | false => exact ⟨_, _, rfl, by decide⟩
          | true => simp [word] at hw
      | param hname => exact ⟨_, _, rfl, by decide⟩
      | star => exact absurd hw (by decide)
      | named hname =>
          obtain ⟨c, rest, hc, -⟩ := exists_cons_of_isDotted hname.isDotted_full
          simp [word, hc] at hw

/-- A type can be read. -/
abbrev ReadableTy (t : Ty) : Prop :=
  Readable Ty.WellNamed (fun t => (typeText t).toList) EndsType t

theorem endsType_cons {c : Char} {rest : List Char} (h : mayExtend c = false) (hblank : c ≠ ' ') :
    EndsType (c :: rest) :=
  ⟨stops_cons.2 h, by simp [Ne.symm hblank]⟩

theorem typeTexts_readable {ss ts : List Ty} (hss : ∀ s ∈ ss, s.WellNamed)
    (hread : ∀ s ∈ ss, ReadableTy s) (hts : ∀ t ∈ ts, t.WellNamed) {close : Char}
    (hclose : close = ')' ∨ close = '>') {r r' : List Char}
    (h : (joinWith ", " (typeTexts ss)).toList ++ close :: r =
      (joinWith ", " (typeTexts ts)).toList ++ close :: r') : ss = ts ∧ r = r' := by
  have hend (rest : List Char) : EndsType (close :: rest) ∧ (close :: rest).head? ≠ some ',' ∧
      Stops mayExtend (close :: rest) := by
    have hstops : mayExtend close = false := by obtain rfl | rfl := hclose <;> decide
    obtain ⟨hblank, hcomma⟩ : close ≠ ' ' ∧ close ≠ ',' := by obtain rfl | rfl := hclose <;> decide
    exact ⟨endsType_cons hstops hblank, by simpa using hcomma, stops_cons.2 hstops⟩
  rw [typeTexts_eq_map, typeTexts_eq_map] at h
  have := joinWith_readable ", " ',' (by simp)
    (fun _ => endsType_cons (by decide) (by decide)) (fun _ => exists_cons_typeText) hss hread hts (hend r) (hend r') h
  exact ⟨this.1, (List.cons.inj this.2).2⟩

theorem afterWord_function_inj {ss ts : List Ty} (hss : ∀ s ∈ ss, s.WellNamed)
    (hread : ∀ s ∈ ss, ReadableTy s) (hts : ∀ t ∈ ts, t.WellNamed) {b : Bool} {s t : Ty}
    (hresult : ReadableTy s) (ht : t.WellNamed) {r r' : List Char} (hr : EndsType r)
    (hr' : EndsType r')
    (h : afterWord (.function ss b s) ++ r = afterWord (.function ts b t) ++ r') :
    Ty.function ss b s = .function ts b t ∧ r = r' := by
  simp only [afterWord, List.append_assoc, List.append_cancel_left_eq, List.cons_append,
    List.cons.injEq, true_and] at h
  obtain ⟨rfl, h⟩ := typeTexts_readable hss hread hts (.inl rfl) h
  obtain ⟨rfl, rfl⟩ := hresult ht hr hr' (by simpa using h)
  exact ⟨rfl, rfl⟩

theorem afterWord_nullable_append (inner : Ty) (r : List Char) :
    afterWord (.nullable inner) ++ r =
      '(' :: ((joinWith ", " (typeTexts [inner])).toList ++ ')' :: '?' :: r) := by
  simp [afterWord, typeTexts, joinWith]

theorem afterWord_grouped_append (params : List Ty) (result : Ty) (r : List Char) :
    afterWord (.function params false result) ++ r =
      '(' :: ((joinWith ", " (typeTexts params)).toList ++
        ')' :: (" -> ".toList ++ ((typeText result).toList ++ r))) := by
  simp [afterWord]

/-- Two equal texts of types begin with the same word, and the types have the same form. -/
theorem word_and_form {s t : Ty} (hs : s.WellNamed) (ht : t.WellNamed) {r r' : List Char}
    (hr : EndsType r) (hr' : EndsType r')
    (h : (typeText s).toList ++ r = (typeText t).toList ++ r') :
    word s = word t ∧ form s = form t ∧ afterWord s ++ r = afterWord t ++ r' := by
  rw [toList_typeText, toList_typeText, List.append_assoc, List.append_assoc] at h
  obtain ⟨hword, hafter⟩ := run_append_inj (inWord_of_mem_word hs) (inWord_of_mem_word ht)
    (stops_afterWord s hr) (stops_afterWord t hr') h
  refine ⟨String.toList_inj.1 hword, ?_, hafter⟩
  rw [← readForm_afterWord s hr, ← readForm_afterWord t hr', hafter]

theorem readable_of_plain {s : Ty} (hs : s.WellNamed) (hform : form s = .plain) : ReadableTy s := by
  intro t ht r r' hr hr' h
  obtain ⟨hword, hsame, -⟩ := word_and_form hs ht hr hr' h
  obtain rfl := eq_of_plain hs ht hform (hsame ▸ hform) hword
  exact ⟨rfl, List.append_cancel_left h⟩

/-- The text of a well-named type is readable. -/
theorem typeText_readable {s : Ty} (hs : s.WellNamed) : ReadableTy s := by
  induction hs with
  | primitive p => exact readable_of_plain (.primitive p) rfl
  | star => exact readable_of_plain .star rfl
  | named hname hnone => exact readable_of_plain (.named hname hnone) rfl
  | param hname =>
      intro t ht r r' hr hr' h
      obtain ⟨-, hform, hafter⟩ := word_and_form (.param hname) ht hr hr' h
      obtain ⟨other, rfl⟩ := exists_of_parameter hform.symm
      cases ht with
      | param hother =>
          have hrun {name : String} (hn : isValid name) : ∀ c ∈ name.toList, inWord c := fun c hc =>
            inWord_of_mayFollow (mayFollow_of_isValid hn hc)
          simp only [afterWord, List.cons_append, List.cons.injEq, true_and] at hafter
          obtain ⟨hnames, rfl⟩ := run_append_inj (hrun hname) (hrun hother) hr.stops hr'.stops hafter
          exact ⟨by rw [String.toList_inj.1 hnames], rfl⟩
  | apply hname hargs ih =>
      intro t ht r r' hr hr' h
      obtain ⟨hword, hform, hafter⟩ := word_and_form (.apply hname hargs) ht hr hr' h
      obtain ⟨other, others, rfl⟩ := exists_of_applied hform.symm
      cases ht with
      | apply hother hothers =>
          simp only [afterWord, List.cons_append, List.append_assoc, List.nil_append, List.cons.injEq,
            true_and] at hafter
          obtain ⟨rfl, rfl⟩ := typeTexts_readable hargs ih hothers (.inr rfl) hafter
          exact ⟨by rw [hname.eq_of_full_eq hother hword], rfl⟩
  | nullable hinner ih =>
      intro t ht r r' hr hr' h
      obtain ⟨-, hform, hafter⟩ := word_and_form (.nullable hinner) ht hr hr' h
      rw [afterWord_nullable_append] at hafter
      obtain ⟨inner', rfl⟩ | ⟨params, result, rfl⟩ := exists_of_grouped hform.symm
      · cases ht with
        | nullable hinner' =>
            rw [afterWord_nullable_append, List.cons.injEq] at hafter
            have := typeTexts_readable (by simpa using hinner) (by simpa using ih)
              (by simpa using hinner') (.inl rfl) hafter.2
            simpa using this
      · cases ht with
        | function _ hparams hresult =>
            -- A question mark stands behind the list on one side and an arrow on the other.
            rw [afterWord_grouped_append, List.cons.injEq] at hafter
            have := typeTexts_readable (by simpa using hinner) (by simpa using ih) hparams (.inl rfl)
              hafter.2
            simp at this
  | @function params result isSuspend hparams hresult ihparams ihresult =>
      intro t ht r r' hr hr' h
      obtain ⟨-, hform, hafter⟩ := word_and_form (.function isSuspend hparams hresult) ht hr hr' h
      have hsame {params' : List Ty} {result' : Ty}
          (ht : (Ty.function params' isSuspend result').WellNamed)
          (hafter : afterWord (.function params isSuspend result) ++ r =
            afterWord (.function params' isSuspend result') ++ r') :
          Ty.function params isSuspend result = .function params' isSuspend result' ∧ r = r' := by
        cases ht with
        | function _ hparams' hresult' =>
            exact afterWord_function_inj hparams ihparams hparams' ihresult hresult' hr hr' hafter
      cases isSuspend with
      | true =>
          obtain ⟨params', result', rfl⟩ := exists_of_suspended hform.symm
          exact hsame ht hafter
      | false =>
          obtain ⟨inner, rfl⟩ | ⟨params', result', rfl⟩ := exists_of_grouped hform.symm
          · cases ht with
            | nullable hinner =>
                rw [afterWord_grouped_append, afterWord_nullable_append, List.cons.injEq] at hafter
                have := typeTexts_readable hparams ihparams (by simpa using hinner) (.inl rfl) hafter.2
                simp at this
          · exact hsame ht hafter

end KotlinFakes.Signature
