import KotlinFakes.Proofs.TypeText.Reading

/-!
# The grammar of type texts

The derivations of the grammar as trees, with a constructor for each of its productions: the tokens that a
derivation yields, and the reference that it denotes in a scope. Different derivations yield different
tokens.
-/

namespace KotlinFakes.TypeText

/-! ## Derivations -/

mutual
/-- A derivation of a type. -/
inductive Derivation where
  /-- `["suspend"] params "->" type` -/
  | function (isSuspend : Bool) (params : List Param) (result : Derivation)
  /-- `"(" param ")" ["?"]` -/
  | group (param : Param) (isMarked : Bool)
  /-- `"*"` -/
  | star
  /-- `name ["<" type ("," type)* ">"] ["?"]` -/
  | named (first : String) (more : List String) (args : List Derivation) (isMarked : Bool)
/-- A derivation of a parameter: `[word ":"] type`. -/
inductive Param where
  | mk (label : Option String) (type : Derivation)
end

mutual
/-- The tokens that a derivation yields. -/
def Derivation.tokens : Derivation → List Token
  | .function isSuspend params result =>
    functionTokens isSuspend (Param.allTokens params) result.tokens
  | .group param isMarked => .leftParen :: param.tokens ++ .rightParen :: markTokens isMarked
  | .star => [.star]
  | .named first more args isMarked =>
    nameTokens (first :: more) ++ argumentTokens (Derivation.allTokens args) ++ markTokens isMarked
def Derivation.allTokens : List Derivation → List (List Token)
  | [] => []
  | d :: ds => d.tokens :: Derivation.allTokens ds
def Param.tokens : Param → List Token
  | .mk label type => labelTokens label ++ type.tokens
def Param.allTokens : List Param → List (List Token)
  | [] => []
  | p :: ps => p.tokens :: Param.allTokens ps
end

/-- A reference that is marked nullable if there is a mark. -/
def markedRef (isMarked : Bool) (r : TypeRef) : TypeRef := if isMarked then r.orNull else r

/-- What a written name denotes with its arguments. -/
def Scope.refer (scope : Scope) (written : String) (args : List TypeRef) : TypeRef :=
  if scope.isTypeParam written then .ofParam written false
  else .ofClass (scope.resolveClass written) args false

mutual
/-- The reference that a derivation denotes. Labels denote nothing. -/
def Derivation.value (scope : Scope) : Derivation → TypeRef
  | .function isSuspend params result =>
    .ofFunction (Param.allValues scope params) (result.value scope) isSuspend false
  | .group param isMarked => markedRef isMarked (param.value scope)
  | .star => .star
  | .named first more args isMarked =>
    markedRef isMarked
      (scope.refer (Text.joinWith "." (first :: more)) (Derivation.allValues scope args))
def Derivation.allValues (scope : Scope) : List Derivation → List TypeRef
  | [] => []
  | d :: ds => d.value scope :: Derivation.allValues scope ds
def Param.value (scope : Scope) : Param → TypeRef
  | .mk _ type => type.value scope
def Param.allValues (scope : Scope) : List Param → List TypeRef
  | [] => []
  | p :: ps => p.value scope :: Param.allValues scope ps
end

mutual
/-- Whether no type parameter of the scope has type arguments in a derivation. -/
def Derivation.isAllowed (scope : Scope) : Derivation → Bool
  | .function _ params result => Param.allAllowed scope params && result.isAllowed scope
  | .group param _ => param.isAllowed scope
  | .star => true
  | .named first more args _ =>
    Derivation.allAllowed scope args &&
      (args.isEmpty || !scope.isTypeParam (Text.joinWith "." (first :: more)))
def Derivation.allAllowed (scope : Scope) : List Derivation → Bool
  | [] => true
  | d :: ds => d.isAllowed scope && Derivation.allAllowed scope ds
def Param.isAllowed (scope : Scope) : Param → Bool
  | .mk _ type => type.isAllowed scope
def Param.allAllowed (scope : Scope) : List Param → Bool
  | [] => true
  | p :: ps => p.isAllowed scope && Param.allAllowed scope ps
end

def Param.type : Param → Derivation
  | .mk _ type => type

/-- Induction on derivations, with a hypothesis for each part. -/
theorem Derivation.induction {motive : Derivation → Prop}
    (function : ∀ isSuspend params result, (∀ p ∈ params, motive p.type) → motive result →
      motive (.function isSuspend params result))
    (group : ∀ param isMarked, motive param.type → motive (.group param isMarked))
    (star : motive .star)
    (named : ∀ first more args isMarked, (∀ d ∈ args, motive d) →
      motive (.named first more args isMarked)) (d : Derivation) : motive d :=
  @Derivation.rec motive (fun p => motive p.type) (fun ps => ∀ p ∈ ps, motive p.type)
    (fun ds => ∀ d ∈ ds, motive d) function group star named (fun _ _ ih => ih)
    (by simp) (fun _ _ ih ihs => List.forall_mem_cons.2 ⟨ih, ihs⟩)
    (by simp) (fun _ _ ih ihs => List.forall_mem_cons.2 ⟨ih, ihs⟩) d

theorem Derivation.allTokens_eq_map (ds : List Derivation) :
    allTokens ds = ds.map Derivation.tokens := by
  induction ds with
  | nil => rfl
  | cons d ds ih => rw [allTokens, ih, List.map_cons]

theorem Param.allTokens_eq_map (ps : List Param) : allTokens ps = ps.map Param.tokens := by
  induction ps with
  | nil => rfl
  | cons p ps ih => rw [allTokens, ih, List.map_cons]

/-! ## Parts are known from their tokens -/

/-- Whether an item is known from its tokens, whatever ends it. -/
def IsKnown {α : Type} (tokens : α → List Token) (item : α) : Prop :=
  ∀ ⦃other : α⦄ ⦃rest rest' : List Token⦄, tokens item ++ rest = tokens other ++ rest' →
    endsType rest.head? → endsType rest'.head? → item = other ∧ rest = rest'

theorem separated_append_inj {α : Type} {tokens : α → List Token} {close : Token}
    (hends : endsType (some close)) (hclose : close ≠ .comma)
    (hbegins : ∀ item, tokens item ≠ [] ∧ (tokens item).head? ≠ some close)
    {items others : List α} {rest rest' : List Token} (hknown : ∀ item ∈ items, IsKnown tokens item)
    (h : separated (items.map tokens) ++ close :: rest =
      separated (others.map tokens) ++ close :: rest') : items = others ∧ rest = rest' := by
  have hhead (item : α) (more : List α) (behind : List Token) :
      (separated ((item :: more).map tokens) ++ behind).head? ≠ some close := by
    obtain ⟨token, tail, htokens⟩ := List.exists_cons_of_ne_nil (hbegins item).1
    have hne := (hbegins item).2
    rw [List.head?_append, List.map_cons, head?_separated (hbegins item).1]
    simpa [htokens] using hne
  induction items generalizing others with
  | nil =>
      cases others with
      | nil => simpa [separated] using h
      | cons other others =>
          exact absurd (congrArg List.head? h).symm (hhead other others (close :: rest'))
  | cons item items ih =>
      cases others with
      | nil => exact absurd (congrArg List.head? h) (hhead item items (close :: rest))
      | cons other others =>
          have hitem := hknown item List.mem_cons_self
          have hmore (next : α) (hnext : next ∈ items) := hknown next (List.mem_cons_of_mem _ hnext)
          -- Behind each item stands the closing token or a comma, and both items end there alike.
          cases items <;> cases others <;>
            simp only [List.map_cons, List.map_nil, separated, List.append_assoc,
              List.cons_append] at h
          case nil.nil =>
              obtain ⟨rfl, hrest⟩ := hitem h hends hends
              exact ⟨rfl, (List.cons.inj hrest).2⟩
          case nil.cons => exact absurd (List.cons.inj (hitem h hends rfl).2).1 hclose
          case cons.nil => exact absurd (List.cons.inj (hitem h rfl hends).2).1.symm hclose
          case cons.cons next items next' others =>
              obtain ⟨rfl, hrest⟩ := hitem h rfl rfl
              have hlists : separated ((next :: items).map tokens) ++ close :: rest =
                  separated ((next' :: others).map tokens) ++ close :: rest' :=
                (List.cons.inj hrest).2
              obtain ⟨hitems, hrest⟩ := ih hmore hlists
              exact ⟨by rw [hitems], hrest⟩

theorem markTokens_append_inj {isMarked isMarked' : Bool} {rest rest' : List Token}
    (hrest : endsType rest.head?) (hrest' : endsType rest'.head?)
    (h : markTokens isMarked ++ rest = markTokens isMarked' ++ rest') :
    isMarked = isMarked' ∧ rest = rest' := by
  match isMarked, isMarked', h with
  | false, false, h => exact ⟨rfl, h⟩
  | true, true, h => exact ⟨rfl, (List.cons.inj h).2⟩
  | false, true, h =>
      obtain rfl : rest = .question :: rest' := h
      simp [endsType] at hrest
  | true, false, h =>
      obtain rfl : .question :: rest = rest' := h
      simp [endsType] at hrest'

theorem nameTokens_append_inj {first first' : String} {more more' : List String}
    {rest rest' : List Token} (hrest : rest.head? ≠ some .dot) (hrest' : rest'.head? ≠ some .dot)
    (h : nameTokens (first :: more) ++ rest = nameTokens (first' :: more') ++ rest') :
    first = first' ∧ more = more' ∧ rest = rest' := by
  simp only [nameTokens, List.cons_append, List.cons.injEq, Token.word.injEq] at h
  obtain ⟨hfirst, h⟩ := h
  refine ⟨hfirst, ?_⟩
  clear hfirst
  induction more generalizing more' with
  | nil =>
      cases more' with
      | nil => exact ⟨rfl, h⟩
      | cons name names =>
          rw [List.flatMap_nil, List.nil_append] at h
          simp [h] at hrest
  | cons name names ih =>
      cases more' with
      | nil =>
          rw [List.flatMap_nil, List.nil_append] at h
          simp [← h] at hrest'
      | cons name' names' =>
          simp only [List.flatMap_cons, List.cons_append, List.nil_append, List.cons.injEq,
            Token.word.injEq, true_and] at h
          obtain ⟨rfl, h⟩ := h
          obtain ⟨rfl, hrest⟩ := ih h
          exact ⟨rfl, hrest⟩

/-! ## Derivations are known from their tokens -/

theorem endsName_markTokens_append (isMarked : Bool) {rest : List Token}
    (hrest : endsType rest.head?) :
    endsName (markTokens isMarked ++ rest).head? ∧
      (markTokens isMarked ++ rest).head? ≠ some .leftAngle := by
  cases isMarked with
  | true => simp [markTokens, endsName]
  | false =>
      refine ⟨by simp [markTokens, endsName, hrest], fun h => ?_⟩
      rw [markTokens, if_neg (by simp), List.nil_append] at h
      simp [h, endsType] at hrest

theorem ne_dot_of_endsName {next : Option Token} (h : endsName next) : next ≠ some .dot := by
  rintro rfl
  simp [endsName, endsType] at h

theorem endsName_argumentTokens_append {items : List (List Token)} {rest : List Token}
    (hrest : endsName rest.head?) : endsName (argumentTokens items ++ rest).head? := by
  by_cases hitems : items = []
  · simpa [argumentTokens, hitems] using hrest
  · simp [argumentTokens, hitems, endsName]

theorem Derivation.beginsType (d : Derivation) : beginsType d.tokens := by
  cases d with
  | function isSuspend => cases isSuspend <;> rfl
  | group => rfl
  | star => rfl
  | named first more args isMarked =>
      cases more with
      | cons next more => rfl
      | nil =>
          by_cases hargs : allTokens args = [] <;> cases isMarked <;>
            simp [tokens, nameTokens, argumentTokens, markTokens, hargs, TypeText.beginsType]

theorem Param.begins (p : Param) : p.tokens ≠ [] ∧ p.tokens.head? ≠ some .rightParen := by
  obtain ⟨_ | name, type⟩ := p
  · exact ⟨ne_nil_of_beginsType type.beginsType, head?_ne_of_beginsType type.beginsType rfl⟩
  · simp [tokens, labelTokens]

theorem argumentTokens_append_inj {args args' : List Derivation} {rest rest' : List Token}
    (hargs : ∀ d ∈ args, IsKnown Derivation.tokens d) (hrest : rest.head? ≠ some .leftAngle)
    (hrest' : rest'.head? ≠ some .leftAngle)
    (h : argumentTokens (Derivation.allTokens args) ++ rest =
      argumentTokens (Derivation.allTokens args') ++ rest') : args = args' ∧ rest = rest' := by
  rw [Derivation.allTokens_eq_map, Derivation.allTokens_eq_map] at h
  match args, args', h with
  | [], [], h => exact ⟨rfl, h⟩
  | [], d :: ds, h =>
      obtain rfl : rest = _ := h
      exact absurd rfl hrest
  | d :: ds, [], h =>
      obtain rfl : _ = rest' := h
      exact absurd rfl hrest'
  | d :: ds, d' :: ds', h =>
      simp only [argumentTokens, List.map_cons, reduceCtorEq, ↓reduceIte, List.cons_append,
        List.append_assoc, List.nil_append, List.cons.injEq, true_and] at h
      exact separated_append_inj rfl (by simp)
        (fun d => ⟨ne_nil_of_beginsType d.beginsType, head?_ne_of_beginsType d.beginsType rfl⟩) hargs h

theorem append_ne_label {tokens rest more : List Token} {name : String} (h : beginsType tokens)
    (hrest : endsType rest.head?) : tokens ++ rest ≠ .word name :: .colon :: more := by
  rintro heq
  match tokens, h with
  | [token], h =>
      obtain ⟨rfl, rfl⟩ := List.cons.inj heq
      simp [endsType] at hrest
  | token :: next :: tokens, h =>
      simp only [List.cons_append, List.cons.injEq] at heq
      obtain ⟨rfl, rfl, -⟩ := heq
      simp [beginsType] at h

theorem Param.isKnown {p : Param} (h : IsKnown Derivation.tokens p.type) :
    IsKnown Param.tokens p := by
  rintro q rest rest' heq hrest hrest'
  obtain ⟨label, type⟩ := p
  obtain ⟨label', type'⟩ := q
  match label, label', heq with
  | none, none, heq =>
      obtain ⟨rfl, rfl⟩ := h heq hrest hrest'
      exact ⟨rfl, rfl⟩
  | some name, some name', heq =>
      simp only [tokens, labelTokens, List.cons_append, List.nil_append, List.cons.injEq,
        Token.word.injEq, true_and] at heq
      obtain ⟨rfl, heq⟩ := heq
      obtain ⟨rfl, rfl⟩ := h heq hrest hrest'
      exact ⟨rfl, rfl⟩
  | none, some name, heq => exact absurd heq (append_ne_label type.beginsType hrest)
  | some name, none, heq => exact absurd heq.symm (append_ne_label type'.beginsType hrest')

theorem paramTokens_append_inj {params params' : List Param} {rest rest' : List Token}
    (hparams : ∀ p ∈ params, IsKnown Derivation.tokens p.type)
    (h : separated (Param.allTokens params) ++ .rightParen :: rest =
      separated (Param.allTokens params') ++ .rightParen :: rest') :
    params = params' ∧ rest = rest' := by
  rw [Param.allTokens_eq_map, Param.allTokens_eq_map] at h
  exact separated_append_inj rfl (by simp) Param.begins (fun p hp => Param.isKnown (hparams p hp)) h

namespace Derivation

variable {isSuspend isMarked : Bool} {params : List Param} {result : Derivation} {param : Param}
  {first : String} {more : List String} {args : List Derivation} {rest : List Token}

theorem function_tokens_append :
    (function isSuspend params result).tokens ++ rest =
      (if isSuspend then [.word "suspend"] else []) ++ .leftParen ::
        (separated (Param.allTokens params) ++ .rightParen :: .arrow :: (result.tokens ++ rest)) := by
  simp [tokens, functionTokens]

theorem group_tokens_append :
    (group param isMarked).tokens ++ rest =
      .leftParen ::
        (separated (Param.allTokens [param]) ++ .rightParen :: (markTokens isMarked ++ rest)) := by
  simp [tokens, Param.allTokens, separated]

theorem named_tokens_append :
    (named first more args isMarked).tokens ++ rest =
      nameTokens (first :: more) ++
        (argumentTokens (allTokens args) ++ (markTokens isMarked ++ rest)) := by
  rw [tokens, List.append_assoc, List.append_assoc]

theorem arrow_ne_markTokens_append {behind : List Token} (hrest : endsType rest.head?) :
    .arrow :: behind ≠ markTokens isMarked ++ rest := by
  intro h
  have hends := (endsName_markTokens_append isMarked hrest).1
  simp [← h, endsName, endsType] at hends

theorem named_tokens_append_ne {name : String} {behind : List Token} (hrest : endsType rest.head?) :
    (named first more args isMarked).tokens ++ rest ≠ .word name :: .leftParen :: behind := by
  intro h
  rw [named_tokens_append] at h
  have hends : endsName (argumentTokens (allTokens args) ++ (markTokens isMarked ++ rest)).head? :=
    endsName_argumentTokens_append (endsName_markTokens_append isMarked hrest).1
  cases more with
  | cons next more => simp [nameTokens] at h
  | nil =>
      simp only [nameTokens, List.flatMap_nil, List.cons_append, List.nil_append,
        List.cons.injEq] at h
      simp [h.2, endsName, endsType] at hends

theorem isKnown_function (hparams : ∀ p ∈ params, IsKnown tokens p.type)
    (hresult : IsKnown tokens result) : IsKnown tokens (function isSuspend params result) := by
  rintro other rest rest' h hrest hrest'
  rw [function_tokens_append] at h
  cases other with
  | function isSuspend' params' result' =>
      rw [function_tokens_append] at h
      obtain ⟨rfl, hbehind⟩ : isSuspend = isSuspend' ∧
          separated (Param.allTokens params) ++ .rightParen :: .arrow :: (result.tokens ++ rest) =
            separated (Param.allTokens params') ++
              .rightParen :: .arrow :: (result'.tokens ++ rest') := by
        cases isSuspend <;> cases isSuspend' <;> simp at h ⊢ <;> exact h
      obtain ⟨rfl, hresults⟩ := paramTokens_append_inj hparams hbehind
      obtain ⟨rfl, rfl⟩ := hresult (List.cons.inj hresults).2 hrest hrest'
      exact ⟨rfl, rfl⟩
  | group param isMarked =>
      rw [group_tokens_append] at h
      cases isSuspend with
      | true => simp at h
      | false =>
          have hbehind := (paramTokens_append_inj hparams (List.cons.inj h).2).2
          exact absurd hbehind (arrow_ne_markTokens_append hrest')
  | star => cases isSuspend <;> simp [tokens] at h
  | named first more args isMarked =>
      cases isSuspend with
      | true => exact absurd h.symm (named_tokens_append_ne hrest')
      | false => simp [tokens, nameTokens] at h

theorem isKnown_group (hparam : IsKnown tokens param.type) :
    IsKnown tokens (group param isMarked) := by
  have hparams : ∀ p ∈ [param], IsKnown tokens p.type := by simpa using hparam
  rintro other rest rest' h hrest hrest'
  rw [group_tokens_append] at h
  cases other with
  | function isSuspend params result =>
      rw [function_tokens_append] at h
      cases isSuspend with
      | true => simp at h
      | false =>
          have hbehind := (paramTokens_append_inj hparams (List.cons.inj h).2).2
          exact absurd hbehind.symm (arrow_ne_markTokens_append hrest)
  | group param' isMarked' =>
      rw [group_tokens_append] at h
      obtain ⟨hsame, hmark⟩ := paramTokens_append_inj hparams (List.cons.inj h).2
      obtain ⟨rfl, rfl⟩ := markTokens_append_inj hrest hrest' hmark
      obtain ⟨rfl, -⟩ := List.cons.inj hsame
      exact ⟨rfl, rfl⟩
  | star => simp [tokens] at h
  | named first more args isMarked' => simp [tokens, nameTokens] at h

theorem isKnown_star : IsKnown tokens star := by
  rintro other rest rest' h hrest hrest'
  cases other with
  | function isSuspend => cases isSuspend <;> simp [tokens, functionTokens] at h
  | group => simp [tokens] at h
  | star => exact ⟨rfl, (List.cons.inj h).2⟩
  | named => simp [tokens, nameTokens] at h

theorem isKnown_named (hargs : ∀ d ∈ args, IsKnown tokens d) :
    IsKnown tokens (named first more args isMarked) := by
  rintro other rest rest' h hrest hrest'
  cases other with
  | function isSuspend params result =>
      rw [function_tokens_append] at h
      cases isSuspend with
      | true => exact absurd h (named_tokens_append_ne hrest)
      | false => simp [tokens, nameTokens] at h
  | group => simp [tokens, nameTokens] at h
  | star => simp [tokens, nameTokens] at h
  | named first' more' args' isMarked' =>
      rw [named_tokens_append, named_tokens_append] at h
      obtain ⟨hends, hangle⟩ := endsName_markTokens_append isMarked hrest
      obtain ⟨hends', hangle'⟩ := endsName_markTokens_append isMarked' hrest'
      obtain ⟨rfl, rfl, hbehind⟩ := nameTokens_append_inj
        (ne_dot_of_endsName (endsName_argumentTokens_append hends))
        (ne_dot_of_endsName (endsName_argumentTokens_append hends')) h
      obtain ⟨rfl, hmarks⟩ := argumentTokens_append_inj hargs hangle hangle' hbehind
      obtain ⟨rfl, rfl⟩ := markTokens_append_inj hrest hrest' hmarks
      exact ⟨rfl, rfl⟩

theorem isKnown (d : Derivation) : IsKnown tokens d := by
  induction d using Derivation.induction with
  | function isSuspend params result hparams hresult => exact isKnown_function hparams hresult
  | group param isMarked hparam => exact isKnown_group hparam
  | star => exact isKnown_star
  | named first more args isMarked hargs => exact isKnown_named hargs

/-- No two derivations yield the same tokens. -/
theorem tokens_injective : Function.Injective tokens := fun d _ h =>
  (d.isKnown (congrArg (· ++ []) h) rfl rfl).1

end Derivation

end KotlinFakes.TypeText
