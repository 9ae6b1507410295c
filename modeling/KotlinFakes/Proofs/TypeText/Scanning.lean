import KotlinFakes.Proofs.Names
import KotlinFakes.TypeText.Token
import Mathlib.Data.List.Forall2

/-!
# Scanning written types

Which tokens the parts of a written type are scanned as. A part is scanned the same whatever stands
behind it, as long as a word at its end does not go on there.
-/

namespace KotlinFakes.TypeText

open Identifier Text

/-! ## The tokens of each part -/

/-- The tokens of a dotted name. -/
def nameTokens : List String → List Token
  | [] => []
  | name :: names => .word name :: names.flatMap fun next => [.dot, .word next]

/-- The tokens of a list, with commas between its items. -/
def separated : List (List Token) → List Token
  | [] => []
  | [item] => item
  | item :: items => item ++ .comma :: separated items

/-- The tokens of type arguments, or nothing. -/
def argumentTokens (items : List (List Token)) : List Token :=
  if items = [] then [] else .leftAngle :: separated items ++ [.rightAngle]

/-- The tokens of a nullability mark, or nothing. -/
def markTokens (isNullable : Bool) : List Token := if isNullable then [.question] else []

/-- The tokens of the label of a parameter, or nothing. -/
def labelTokens : Option String → List Token
  | none => []
  | some name => [.word name, .colon]

/-- The tokens of a function type. -/
def functionTokens (isSuspend : Bool) (items : List (List Token)) (result : List Token) :
    List Token :=
  (if isSuspend then [.word "suspend"] else []) ++
    .leftParen :: separated items ++ .rightParen :: .arrow :: result

/-! ## Scanning one token -/

theorem not_blank_of_mark {c : Char} {token : Token} (h : mark? c = some token) :
    isBlank c = false ∧ mayFollow c = false := by
  unfold mark? at h
  repeat' split at h
  all_goals first | subst c; decide | cases h

theorem takeWhile_append {kind : Char → Bool} {a b : List Char} (ha : ∀ c ∈ a, kind c)
    (hb : Stops kind b) : (a ++ b).takeWhile kind = a ∧ (a ++ b).dropWhile kind = b := by
  induction a with
  | nil =>
      cases b with
      | nil => exact ⟨rfl, rfl⟩
      | cons c b => simp [stops_cons.1 hb]
  | cons c a ih =>
      obtain ⟨htake, hdrop⟩ := ih fun d hd => ha d (List.mem_cons_of_mem _ hd)
      simp [ha c List.mem_cons_self, htake, hdrop]

theorem stops_append {kind : Char → Bool} {text rest : List Char} (h : Stops kind text)
    (hrest : Stops kind rest) : Stops kind (text ++ rest) := by
  cases text with
  | nil => exact hrest
  | cons c text => exact stops_cons.2 (stops_cons.1 h)

/-- Whether a text is scanned as the given tokens, if no word at its end goes on. -/
def Scans (text : List Char) (tokens : List Token) : Prop :=
  ∀ ⦃rest : List Char⦄, Stops mayFollow rest → ∀ offset, ∃ located offset',
    located.map Located.token = tokens ∧
      scan offset (text ++ rest) = (located ++ ·) <$> scan offset' rest

theorem scans_nil : Scans [] [] := fun rest _ offset =>
  ⟨[], offset, rfl, by cases h : scan offset rest <;> simp [h]⟩

theorem scans_append {before after : List Char} {tokens more : List Token}
    (h : Scans before tokens) (hafter : Stops mayFollow after) (h' : Scans after more) :
    Scans (before ++ after) (tokens ++ more) := by
  intro rest hrest offset
  obtain ⟨located, middle, hlocated, hscan⟩ := h (stops_append hafter hrest) offset
  obtain ⟨located', offset', hlocated', hscan'⟩ := h' hrest middle
  refine ⟨located ++ located', offset', by rw [List.map_append, hlocated, hlocated'], ?_⟩
  rw [List.append_assoc, hscan, hscan']
  cases scan offset' rest <;> simp

theorem scans_blank {text : List Char} {tokens : List Token} (h : Scans text tokens) :
    Scans (' ' :: text) tokens := by
  intro rest hrest offset
  obtain ⟨located, offset', hlocated, hscan⟩ := h hrest (offset + ' '.utf8Size)
  have hblank : isBlank ' ' := by decide
  refine ⟨located, offset', hlocated, ?_⟩
  rw [List.cons_append, scan.eq_def]
  simp [hscan, hblank]

theorem scans_mark {c : Char} {token : Token} {text : List Char} {tokens : List Token}
    (hc : mark? c = some token) (h : Scans text tokens) : Scans (c :: text) (token :: tokens) := by
  intro rest hrest offset
  obtain ⟨located, offset', hlocated, hscan⟩ := h hrest (offset + c.utf8Size)
  refine ⟨⟨token, offset⟩ :: located, offset', by rw [List.map_cons, hlocated], ?_⟩
  rw [List.cons_append, scan.eq_def]
  simp [(not_blank_of_mark hc).1, hc, hscan]

theorem scans_arrow {text : List Char} {tokens : List Token} (h : Scans text tokens) :
    Scans ('-' :: '>' :: text) (.arrow :: tokens) := by
  intro rest hrest offset
  obtain ⟨located, offset', hlocated, hscan⟩ := h hrest (offset + 2)
  have hblank : isBlank '-' = false := by decide
  have hmark : mark? '-' = none := by decide
  refine ⟨⟨.arrow, offset⟩ :: located, offset', by rw [List.map_cons, hlocated], ?_⟩
  rw [List.cons_append, List.cons_append, scan.eq_def]
  simp [hblank, hmark, hscan]

theorem scans_word {name : String} (hname : isValid name) : Scans name.toList [.word name] := by
  intro rest hrest offset
  obtain ⟨c, more, hlist, hc, hmore⟩ := exists_cons_of_isValid hname
  have hfollow := mayFollow_of_mayStart hc
  have hblank : isBlank c = false := isBlank_eq_false_of_inDotted (by simp [inDotted, hfollow])
  have hmark : mark? c = none := by
    refine Option.eq_none_iff_forall_ne_some.2 fun token h => ?_
    simp [(not_blank_of_mark h).2] at hfollow
  have hminus : c ≠ '-' := by
    rintro rfl
    exact absurd hfollow (by decide)
  obtain ⟨htake, hdrop⟩ := takeWhile_append hmore hrest
  have hword : String.ofList (c :: more) = name := by rw [← hlist, String.ofList_toList]
  refine ⟨[⟨.word name, offset⟩], offset + byteLength (c :: more), rfl, ?_⟩
  rw [hlist, List.cons_append, scan.eq_def]
  simp only [hblank, hmark, if_neg hminus, hc, htake, hdrop, hword, Bool.false_eq_true,
    ↓reduceIte, bind, Except.bind]
  cases scan (offset + byteLength (c :: more)) rest <;> rfl

/-! ## Scanning the parts of a type -/

theorem scans_name {names : List String} (hnames : ∀ name ∈ names, isValid name)
    (hne : names ≠ []) : Scans (joinWith "." names).toList (nameTokens names) := by
  cases names with
  | nil => exact absurd rfl hne
  | cons name names =>
      rw [toList_joinWith]
      have hstops (names : List String) :
          Stops mayFollow (names.flatMap fun next => ".".toList ++ next.toList) := by
        cases names with
        | nil => exact stops_nil _
        | cons => exact stops_cons.2 (by decide)
      refine scans_append (scans_word (hnames name (by simp))) (hstops names) ?_
      have hmore : ∀ next ∈ names, isValid next := fun next h => hnames next (by simp [h])
      clear hnames hne
      induction names with
      | nil => exact scans_nil
      | cons next names ih =>
          have hnext := scans_append (scans_word (hmore next (by simp))) (hstops names)
            (ih fun name h => hmore name (by simp [h]))
          simpa using scans_mark rfl hnext

theorem scans_separated {texts : List String} {items : List (List Token)}
    (h : List.Forall₂ (fun text tokens => Scans text.toList tokens) texts items) :
    Scans (joinWith ", " texts).toList (separated items) := by
  induction h with
  | nil => exact scans_nil
  | @cons text item texts items hitem hrest ih =>
      cases hrest with
      | nil => exact hitem
      | cons hnext hrest =>
          have hmore := scans_append hitem (stops_cons.2 (by decide))
            (scans_mark (c := ',') rfl (scans_blank ih))
          simpa [joinWith, separated] using hmore

theorem scans_dotted {name : String} (h : isDotted name) :
    Scans name.toList (nameTokens (segments name)) := by
  have hname := scans_name (List.all_eq_true.1 h) (segments_ne_nil name)
  rwa [joinWith_segments] at hname

theorem scans_function {texts : List String} {items : List (List Token)} {text : String}
    {tokens : List Token} (isSuspend : Bool)
    (hitems : List.Forall₂ (fun text tokens => Scans text.toList tokens) texts items)
    (hresult : Scans text.toList tokens) :
    Scans ((if isSuspend then "suspend " else "") ++ "(" ++ joinWith ", " texts ++ ") -> " ++
      text).toList (functionTokens isSuspend items tokens) := by
  have hbehind :
      Scans (')' :: ' ' :: '-' :: '>' :: ' ' :: text.toList) (.rightParen :: .arrow :: tokens) :=
    scans_mark rfl (scans_blank (scans_arrow (scans_blank hresult)))
  have hparams := scans_mark (c := '(') rfl
    (scans_append (scans_separated hitems) (stops_cons.2 (by decide)) hbehind)
  cases isSuspend with
  | false => simpa [functionTokens] using hparams
  | true =>
      have hword : isValid "suspend" := by decide
      have hsuspend := scans_append (scans_word hword) (stops_cons.2 (by decide))
        (scans_blank hparams)
      simpa [functionTokens] using hsuspend

end KotlinFakes.TypeText
