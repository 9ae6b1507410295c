import KotlinFakes.Proofs.TypeText.Scanning
import KotlinFakes.TypeText.Parser

/-!
# Reading tokens of types

Which references the parser reads from the tokens of each part of a written type. A type is read the
same whatever stands behind it, as long as that ends a type, and with three units of fuel for each of
its tokens.
-/

namespace KotlinFakes.TypeText

/-! ## Where types begin and end -/

/-- Whether a type ends where the given token stands behind it. -/
def endsType : Option Token → Bool
  | none | some .comma | some .rightParen | some .rightAngle => true
  | _ => false

/-- Whether a name ends where the given token stands behind it. -/
def endsName (next : Option Token) : Bool :=
  endsType next || next = some .leftAngle || next = some .question

/-- Whether a word is a name and no keyword where the given token stands behind it. -/
def endsWord (next : Option Token) : Bool := endsName next || next = some .dot

/-- Whether tokens can begin a type. A label in front of it is not part of the type. -/
def beginsType : List Token → Bool
  | .word _ :: .colon :: _ => false
  | .word _ :: _ | .leftParen :: _ | .star :: _ => true
  | _ => false

theorem ne_nil_of_beginsType {tokens : List Token} (h : beginsType tokens) : tokens ≠ [] := by
  rintro rfl
  simp [beginsType] at h

theorem head?_ne_of_beginsType {tokens : List Token} {close : Token} (h : beginsType tokens)
    (hclose : endsType (some close)) : tokens.head? ≠ some close := by
  cases tokens with
  | nil => simp
  | cons token more =>
      rw [List.head?_cons]
      rintro ⟨⟩
      cases close <;> simp_all [beginsType, endsType]

theorem head?_separated {item : List Token} {items : List (List Token)} (h : item ≠ []) :
    (separated (item :: items)).head? = item.head? := by
  cases item with
  | nil => exact absurd rfl h
  | cons token more => cases items <;> rfl

theorem dropLabel_append {located rest : List Located}
    (h : beginsType (located.map Located.token)) (hrest : endsType (next? rest)) :
    dropLabel (located ++ rest) = located ++ rest := by
  unfold dropLabel
  split
  · next heq =>
      match located, h with
      | [a], h => simp_all [endsType, next?]
      | a :: b :: located, h => simp_all [beginsType]
  · rfl

theorem starts_of_endsWord {name : String} {o : Nat} {rest : List Located}
    (h : endsWord (next? rest)) :
    startsSuspend (⟨.word name, o⟩ :: rest) = false ∧
      startsVariance (⟨.word name, o⟩ :: rest) = false := by
  cases rest with
  | nil => exact ⟨rfl, rfl⟩
  | cons t rest =>
      obtain ⟨token, offset⟩ := t
      cases token <;> simp_all [endsWord, endsName, endsType, next?, startsSuspend, startsVariance]

/-! ## Names and marks -/

theorem nameTail_append {stop : Nat} {names : List String} {located rest : List Located}
    (h : located.map Located.token = names.flatMap fun next => [.dot, .word next])
    (hrest : endsName (next? rest)) : nameTail stop (located ++ rest) = .ok (names, rest) := by
  induction names generalizing located with
  | nil =>
      obtain rfl : located = [] := by simpa using h
      unfold nameTail
      split <;> simp_all [next?, endsName, endsType]
  | cons name names ih =>
      simp only [List.flatMap_cons, List.cons_append, List.nil_append, List.map_eq_cons_iff] at h
      obtain ⟨⟨_, o⟩, _, rfl, rfl, ⟨_, o'⟩, more, rfl, rfl, hmore⟩ := h
      simp only [List.cons_append, nameTail, ih hmore, bind, Except.bind, pure, Except.pure]

theorem endsWord_append {names : List String} {located rest : List Located}
    (h : located.map Located.token = names.flatMap fun next => [.dot, .word next])
    (hrest : endsName (next? rest)) : endsWord (next? (located ++ rest)) := by
  cases names with
  | nil =>
      obtain rfl : located = [] := by simpa using h
      simp [endsWord, hrest]
  | cons name names =>
      simp only [List.flatMap_cons, List.cons_append, List.map_eq_cons_iff] at h
      obtain ⟨⟨_, o⟩, _, rfl, rfl, -⟩ := h
      rfl

theorem withMark_append {isNullable : Bool} {mark rest : List Located} (r : TypeRef)
    (hmark : mark.map Located.token = markTokens isNullable) (hrest : endsType (next? rest)) :
    withMark r (mark ++ rest) = (if isNullable then r.orNull else r, rest) ∧
      endsName (next? (mark ++ rest)) ∧ next? (mark ++ rest) ≠ some .leftAngle := by
  cases isNullable with
  | true =>
      simp only [markTokens, ↓reduceIte, List.map_eq_cons_iff, List.map_eq_nil_iff] at hmark
      obtain ⟨⟨_, o⟩, _, rfl, rfl, rfl⟩ := hmark
      exact ⟨rfl, rfl, by simp [next?]⟩
  | false =>
      obtain rfl : mark = [] := by simpa [markTokens] using hmark
      refine ⟨?_, by simp [endsName, hrest], fun h => ?_⟩
      · unfold withMark
        split <;> simp_all [next?, endsType]
      · rw [List.nil_append] at h
        simp [h, endsType] at hrest

/-! ## Lists of types -/

variable {scope : Scope} {stop : Nat}

/-- Whether tokens are read as the given reference wherever a type may stand. -/
structure Reads (scope : Scope) (stop : Nat) (tokens : List Token) (r : TypeRef) : Prop where
  begins : beginsType tokens
  parseType : ∀ {located rest : List Located} {fuel : Nat}, located.map Located.token = tokens →
    endsType (next? rest) → 3 * tokens.length ≤ fuel →
    parseType scope stop fuel (located ++ rest) = .ok (r, rest)

/-- Whether tokens are read as the given reference wherever a parameter may stand. -/
def ReadsParam (scope : Scope) (stop : Nat) (item : List Token) (r : TypeRef) : Prop :=
  ∃ label tokens, item = labelTokens label ++ tokens ∧ Reads scope stop tokens r

theorem Reads.param {tokens : List Token} {r : TypeRef} (h : Reads scope stop tokens r) :
    ReadsParam scope stop tokens r := ⟨none, tokens, rfl, h⟩

theorem ReadsParam.ne_nil {item : List Token} {r : TypeRef} (h : ReadsParam scope stop item r) :
    item ≠ [] := by
  obtain ⟨_ | name, tokens, rfl, hread⟩ := h
  · exact ne_nil_of_beginsType hread.begins
  · exact List.cons_ne_nil _ _

theorem ReadsParam.head?_ne {item : List Token} {r : TypeRef} (h : ReadsParam scope stop item r) :
    item.head? ≠ some .rightParen := by
  obtain ⟨_ | name, tokens, rfl, hread⟩ := h
  · exact head?_ne_of_beginsType hread.begins rfl
  · simp [labelTokens]

/-- Read a parameter: drop its label and read its type. -/
def parseParam (scope : Scope) (stop fuel : Nat) (tokens : List Located) :
    Except Error (TypeRef × List Located) :=
  parseType scope stop fuel (dropLabel tokens)

theorem ReadsParam.parseParam {item : List Token} {r : TypeRef} (h : ReadsParam scope stop item r)
    {located rest : List Located} {fuel : Nat} (hlocated : located.map Located.token = item)
    (hrest : endsType (next? rest)) (hfuel : 3 * item.length ≤ fuel) :
    parseParam scope stop fuel (located ++ rest) = .ok (r, rest) := by
  rw [TypeText.parseParam]
  obtain ⟨_ | name, tokens, rfl, hread⟩ := h
  · rw [dropLabel_append (hlocated ▸ hread.begins) hrest]
    exact hread.parseType hlocated hrest hfuel
  · simp only [labelTokens, List.cons_append, List.nil_append, List.map_eq_cons_iff] at hlocated
    obtain ⟨⟨_, o⟩, _, rfl, rfl, ⟨_, o'⟩, inner, rfl, rfl, hinner⟩ := hlocated
    simp only [labelTokens, List.length_append] at hfuel
    exact hread.parseType hinner hrest (by omega)

/-- A list is read item by item up to the token that closes it. -/
theorem read_list {IsRead : List Token → TypeRef → Prop}
    {parseItem : Nat → List Located → Except Error (TypeRef × List Located)}
    {parseList : Nat → List Located → Except Error (List TypeRef × List Located)}
    {close : Token} (hends : endsType (some close))
    (hitem : ∀ {item r located rest fuel}, IsRead item r → located.map Located.token = item →
      endsType (next? rest) → 3 * item.length ≤ fuel →
      parseItem fuel (located ++ rest) = .ok (r, rest))
    (hlast : ∀ {fuel tokens r o rest}, parseItem fuel tokens = .ok (r, ⟨close, o⟩ :: rest) →
      parseList (fuel + 1) tokens = .ok ([r], rest))
    (hmore : ∀ {fuel tokens r o rest rs rest'},
      parseItem fuel tokens = .ok (r, ⟨.comma, o⟩ :: rest) → parseList fuel rest = .ok (rs, rest') →
      parseList (fuel + 1) tokens = .ok (r :: rs, rest'))
    {items : List (List Token)} {rs : List TypeRef} (h : List.Forall₂ IsRead items rs)
    (hne : items ≠ []) {located rest : List Located} {o fuel : Nat}
    (hlocated : located.map Located.token = separated items)
    (hfuel : 3 * (separated items).length + 1 ≤ fuel) :
    parseList fuel (located ++ ⟨close, o⟩ :: rest) = .ok (rs, rest) := by
  induction h generalizing located fuel with
  | nil => exact absurd rfl hne
  | @cons item r items rs hr hrs ih =>
      obtain ⟨fuel, rfl⟩ : ∃ n, fuel = n + 1 := ⟨fuel - 1, by omega⟩
      cases items with
      | nil =>
          cases hrs
          simp only [separated] at hlocated hfuel
          exact hlast (hitem hr hlocated hends (by omega))
      | cons next items =>
          simp only [separated, List.map_eq_append_iff, List.map_eq_cons_iff] at hlocated
          obtain ⟨first, _, rfl, rfl, ⟨_, o'⟩, more, rfl, rfl, hlocated⟩ := hlocated
          simp only [separated, List.length_append, List.length_cons, List.length_map] at hfuel
          rw [List.append_assoc, List.cons_append]
          exact hmore (hitem hr rfl rfl (by rw [List.length_map]; omega))
            (ih (by simp) hlocated (by omega))

theorem parseArguments_append {items : List (List Token)} {rs : List TypeRef}
    (h : List.Forall₂ (Reads scope stop) items rs) (hne : items ≠ [])
    {located rest : List Located} {o fuel : Nat}
    (hlocated : located.map Located.token = separated items)
    (hfuel : 3 * (separated items).length + 1 ≤ fuel) :
    parseArguments scope stop fuel (located ++ ⟨.rightAngle, o⟩ :: rest) = .ok (rs, rest) :=
  read_list rfl (fun hr => hr.parseType)
    (fun h => by simp only [parseArguments, h, bind, Except.bind, pure, Except.pure])
    (fun h hrest => by simp only [parseArguments, h, hrest, bind, Except.bind, pure, Except.pure])
    h hne hlocated hfuel

theorem parseParams_append {items : List (List Token)} {rs : List TypeRef}
    (h : List.Forall₂ (ReadsParam scope stop) items rs) {located rest : List Located} {o fuel : Nat}
    (hlocated : located.map Located.token = separated items)
    (hfuel : 3 * (separated items).length + 2 ≤ fuel) :
    parseParams scope stop fuel (located ++ ⟨.rightParen, o⟩ :: rest) = .ok (rs, rest) := by
  obtain ⟨fuel, rfl⟩ : ∃ n, fuel = n + 1 := ⟨fuel - 1, by omega⟩
  cases h with
  | nil =>
      obtain rfl : located = [] := by simpa [separated] using hlocated
      simp [parseParams]
  | @cons item r items rs hr hrs =>
      have hlist : parseParamList scope stop fuel (located ++ ⟨.rightParen, o⟩ :: rest) =
          .ok (r :: rs, rest) :=
        read_list rfl (fun hr => hr.parseParam)
          (fun h => by
            rw [parseParam] at h
            simp only [parseParamList, h, bind, Except.bind, pure, Except.pure])
          (fun h hrest => by
            rw [parseParam] at h
            simp only [parseParamList, h, hrest, bind, Except.bind, pure, Except.pure])
          (.cons hr hrs) (by simp) hlocated (by omega)
      rw [parseParams]
      · exact hlist
      · -- The list is not empty, so what is read first is no closing parenthesis.
        rintro o' more heq
        have hhead := congrArg List.head? hlocated
        rw [head?_separated hr.ne_nil, List.head?_map] at hhead
        cases located with
        | nil => exact hr.ne_nil (List.head?_eq_none_iff.1 hhead.symm)
        | cons t located =>
            obtain ⟨rfl, -⟩ := List.cons.inj heq
            exact hr.head?_ne hhead.symm

/-! ## Each form of a type -/

theorem Reads.star : Reads scope stop [.star] .star where
  begins := rfl
  parseType {located rest fuel} hlocated hrest hfuel := by
    simp only [List.map_eq_cons_iff, List.map_eq_nil_iff] at hlocated
    obtain ⟨⟨_, o⟩, _, rfl, rfl, rfl⟩ := hlocated
    obtain ⟨fuel, rfl⟩ : ∃ n, fuel = n + 1 := ⟨fuel - 1, by simp at hfuel; omega⟩
    simp [TypeText.parseType, startsSuspend, startsVariance]

theorem ReadsParam.group {item : List Token} {r : TypeRef} (isNullable : Bool)
    (h : ReadsParam scope stop item r) :
    Reads scope stop (.leftParen :: item ++ .rightParen :: markTokens isNullable)
      (if isNullable then r.orNull else r) where
  begins := rfl
  parseType {located rest fuel} hlocated hrest hfuel := by
    simp only [List.cons_append, List.map_eq_cons_iff, List.map_eq_append_iff] at hlocated
    obtain ⟨⟨_, o⟩, _, rfl, rfl, inner, _, rfl, hinner, ⟨_, o'⟩, mark, rfl, rfl, hmark⟩ := hlocated
    simp only [List.cons_append, List.length_cons, List.length_append] at hfuel
    obtain ⟨fuel, rfl⟩ : ∃ n, fuel = n + 1 := ⟨fuel - 1, by omega⟩
    obtain ⟨hmarked, hends, -⟩ := withMark_append r hmark hrest
    have hparams : parseParams scope stop fuel (inner ++ ⟨.rightParen, o'⟩ :: (mark ++ rest)) =
        .ok ([r], mark ++ rest) :=
      parseParams_append (.cons h .nil) hinner (by simp only [separated]; omega)
    have harrow : next? (mark ++ rest) ≠ some .arrow := fun heq => by
      simp [heq, endsName, endsType] at hends
    simp only [TypeText.parseType, startsSuspend, startsVariance, List.cons_append,
      List.append_assoc, hparams, harrow, ↓reduceIte, bind, Except.bind, pure, Except.pure]
    rw [hmarked]
    rfl

theorem Reads.function {items : List (List Token)} {ps : List TypeRef} {tokens : List Token}
    {result : TypeRef} (isSuspend : Bool) (hps : List.Forall₂ (ReadsParam scope stop) items ps)
    (hresult : Reads scope stop tokens result) :
    Reads scope stop (functionTokens isSuspend items tokens)
      (.ofFunction ps result isSuspend false) where
  begins := by cases isSuspend <;> rfl
  parseType {located rest fuel} hlocated hrest hfuel := by
    -- Behind the opening parenthesis both kinds are read alike.
    have hread {located : List Located} {fuel : Nat}
        (hlocated : located.map Located.token = separated items ++ .rightParen :: .arrow :: tokens)
        (hfuel : 3 * (separated items).length + 3 * tokens.length + 3 ≤ fuel) :
        ∃ arrow, next? arrow = some .arrow ∧
          parseParams scope stop fuel (located ++ rest) = .ok (ps, arrow) ∧
          parseResult scope stop fuel ps isSuspend arrow =
            .ok (.ofFunction ps result isSuspend false, rest) := by
      simp only [List.map_eq_append_iff, List.map_eq_cons_iff] at hlocated
      obtain ⟨params, _, rfl, hparams, ⟨_, o⟩, _, rfl, rfl, ⟨_, o'⟩, tail, rfl, rfl, htail⟩ :=
        hlocated
      refine ⟨⟨.arrow, o'⟩ :: (tail ++ rest), rfl, ?_, ?_⟩
      · rw [List.append_assoc]
        exact parseParams_append hps hparams (by omega)
      · obtain ⟨fuel, rfl⟩ : ∃ n, fuel = n + 1 := ⟨fuel - 1, by omega⟩
        have htype := hresult.parseType htail hrest (by omega : 3 * tokens.length ≤ fuel)
        simp only [parseResult, htype, bind, Except.bind, pure, Except.pure]
    obtain ⟨fuel, rfl⟩ : ∃ n, fuel = n + 1 :=
      ⟨fuel - 1, by simp [functionTokens] at hfuel; omega⟩
    cases isSuspend with
    | true =>
        simp only [functionTokens, ↓reduceIte, List.cons_append, List.nil_append,
          List.map_eq_cons_iff] at hlocated
        obtain ⟨⟨_, o⟩, _, rfl, rfl, ⟨_, o'⟩, tail, rfl, rfl, htail⟩ := hlocated
        simp only [functionTokens, ↓reduceIte, List.length_append, List.length_cons,
          List.length_nil] at hfuel
        obtain ⟨arrow, -, hparams, hresult⟩ := hread htail (by omega : _ ≤ fuel)
        simp [TypeText.parseType, startsSuspend, hparams]
        simp only [hresult, bind, Except.bind]
    | false =>
        simp only [functionTokens, Bool.false_eq_true, ↓reduceIte, List.cons_append,
          List.nil_append, List.map_eq_cons_iff] at hlocated
        obtain ⟨⟨_, o'⟩, tail, rfl, rfl, htail⟩ := hlocated
        simp only [functionTokens, Bool.false_eq_true, ↓reduceIte, List.length_append,
          List.length_cons, List.length_nil] at hfuel
        obtain ⟨arrow, harrow, hparams, hresult⟩ := hread htail (by omega : _ ≤ fuel)
        simp [TypeText.parseType, startsSuspend, startsVariance, hparams]
        simp only [harrow, hresult, bind, Except.bind, ↓reduceIte]

/-- What stands behind a name is read as its arguments. -/
def ReadsArguments (scope : Scope) (stop fuel : Nat) (behind : List Located) (args : List TypeRef)
    (rest : List Located) : Prop :=
  (∃ o inner, behind = ⟨.leftAngle, o⟩ :: inner ∧
      parseArguments scope stop fuel inner = .ok (args, rest)) ∨
    next? behind ≠ some .leftAngle ∧ args = [] ∧ rest = behind

theorem parseType_word {name : String} {names : List String} {more behind rest : List Located}
    {o fuel : Nat} {args : List TypeRef} {r : TypeRef}
    (hmore : more.map Located.token = names.flatMap fun next => [.dot, .word next])
    (hends : endsName (next? behind)) (hargs : ReadsArguments scope stop fuel behind args rest)
    (happlied : applied scope o (Text.joinWith "." (name :: names)) args = .ok r) :
    parseType scope stop (fuel + 1) (⟨.word name, o⟩ :: (more ++ behind)) =
      .ok (withMark r rest) := by
  obtain ⟨hsuspend, hvariance⟩ : startsSuspend (⟨.word name, o⟩ :: (more ++ behind)) = false ∧
      startsVariance (⟨.word name, o⟩ :: (more ++ behind)) = false :=
    starts_of_endsWord (endsWord_append hmore hends)
  simp only [TypeText.parseType, hsuspend, hvariance, nameTail_append hmore hends, bind,
    Except.bind, Bool.false_eq_true, ↓reduceIte]
  obtain ⟨o', inner, rfl, hinner⟩ | ⟨hangle, rfl, rfl⟩ := hargs
  · simp only [hinner, happlied]
    rfl
  · split
    · simp [next?] at hangle
    · rw [happlied]
      rfl

theorem Reads.named {name : String} {names : List String} {items : List (List Token)}
    {args : List TypeRef} {r : TypeRef} (isNullable : Bool)
    (hargs : List.Forall₂ (Reads scope stop) items args)
    (happlied : ∀ offset, applied scope offset (Text.joinWith "." (name :: names)) args = .ok r) :
    Reads scope stop (nameTokens (name :: names) ++ argumentTokens items ++ markTokens isNullable)
      (if isNullable then r.orNull else r) where
  begins := by
    cases names with
    | cons next names => rfl
    | nil =>
        by_cases hitems : items = [] <;> cases isNullable <;>
          simp [nameTokens, argumentTokens, markTokens, hitems, beginsType]
  parseType {located rest fuel} hlocated hrest hfuel := by
    simp only [nameTokens, List.map_eq_append_iff, List.map_eq_cons_iff] at hlocated
    obtain ⟨_, mark, rfl, ⟨_, arguments, rfl, ⟨⟨_, o⟩, more, rfl, rfl, hmore⟩, harguments⟩,
      hmark⟩ := hlocated
    simp only [List.length_append, nameTokens, List.length_cons] at hfuel
    obtain ⟨fuel, rfl⟩ : ∃ n, fuel = n + 1 := ⟨fuel - 1, by omega⟩
    obtain ⟨hmarked, hends, hangle⟩ := withMark_append r hmark hrest
    simp only [List.append_assoc, List.cons_append]
    rw [← hmarked]
    by_cases hitems : items = []
    · subst hitems
      cases hargs
      obtain rfl : arguments = [] := by simpa [argumentTokens] using harguments
      exact parseType_word hmore hends (.inr ⟨hangle, rfl, rfl⟩) (happlied o)
    · simp only [argumentTokens, if_neg hitems, List.map_eq_cons_iff, List.map_eq_append_iff,
        List.map_eq_nil_iff, List.cons_append] at harguments
      obtain ⟨⟨_, o'⟩, _, rfl, rfl, inner, _, rfl, hinner, ⟨_, o''⟩, _, rfl, rfl, rfl⟩ := harguments
      simp only [argumentTokens, if_neg hitems, List.length_append, List.length_cons] at hfuel
      refine parseType_word hmore rfl
        (.inl ⟨o', inner ++ ⟨.rightAngle, o''⟩ :: (mark ++ rest), by simp, ?_⟩) (happlied o)
      exact parseArguments_append hargs hitems hinner (by omega)

end KotlinFakes.TypeText
