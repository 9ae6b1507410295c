import KotlinFakes.Proofs.Sequence
import KotlinFakes.Proofs.TypeText.Grammar

/-!
# Which type texts are accepted

The parser reads a text as a type just if its tokens have a derivation in which no type parameter has type
arguments, and it returns what that derivation denotes.
-/

namespace KotlinFakes.TypeText

variable {scope : Scope} {stop fuel : Nat}

theorem applied_eq_ok_iff {offset : Nat} {written : String} {args : List TypeRef} {r : TypeRef} :
    applied scope offset written args = .ok r ↔
      (args.isEmpty || !scope.isTypeParam written) ∧ scope.refer written args = r := by
  unfold applied Scope.refer
  cases scope.isTypeParam written <;> cases args.isEmpty <;> simp

theorem Derivation.allValues_eq_map (ds : List Derivation) :
    allValues scope ds = ds.map (Derivation.value scope) := by
  induction ds with
  | nil => rfl
  | cons d ds ih => rw [allValues, ih, List.map_cons]

theorem Param.allValues_eq_map (ps : List Param) :
    allValues scope ps = ps.map (Param.value scope) := by
  induction ps with
  | nil => rfl
  | cons p ps ih => rw [allValues, ih, List.map_cons]

theorem Derivation.allAllowed_iff {ds : List Derivation} :
    allAllowed scope ds ↔ ∀ d ∈ ds, d.isAllowed scope := by
  induction ds with
  | nil => simp [allAllowed]
  | cons d ds ih => simp [allAllowed, ih]

theorem Param.allAllowed_iff {ps : List Param} :
    allAllowed scope ps ↔ ∀ p ∈ ps, p.isAllowed scope := by
  induction ps with
  | nil => simp [allAllowed]
  | cons p ps ih => simp [allAllowed, ih]

/-! ## What is derived is read -/

theorem Param.reads {p : Param} (h : Reads scope stop p.type.tokens (p.type.value scope)) :
    ReadsParam scope stop p.tokens (p.value scope) := by
  obtain ⟨label, type⟩ := p
  exact ⟨label, type.tokens, rfl, h⟩

/-- The tokens of a derivation are read as what it denotes. -/
theorem Derivation.reads (d : Derivation) (h : d.isAllowed scope) :
    Reads scope stop d.tokens (d.value scope) := by
  induction d using Derivation.induction with
  | function isSuspend params result hparams hresult =>
      rw [isAllowed, Bool.and_eq_true, Param.allAllowed_iff] at h
      have hps : List.Forall₂ (ReadsParam scope stop) (Param.allTokens params)
          (Param.allValues scope params) := by
        rw [Param.allTokens_eq_map, Param.allValues_eq_map, List.forall₂_map_left_iff,
          List.forall₂_map_right_iff, List.forall₂_same]
        intro p hp
        exact Param.reads (hparams p hp (by cases p; exact h.1 _ hp))
      exact Reads.function isSuspend hps (hresult h.2)
  | group param isMarked hparam =>
      obtain ⟨label, type⟩ := param
      exact (Param.reads (hparam h)).group isMarked
  | star => exact Reads.star
  | named first more args isMarked hargs =>
      rw [isAllowed, Bool.and_eq_true, allAllowed_iff] at h
      have hreads : List.Forall₂ (Reads scope stop) (allTokens args) (allValues scope args) := by
        rw [allTokens_eq_map, allValues_eq_map, List.forall₂_map_left_iff,
          List.forall₂_map_right_iff, List.forall₂_same]
        exact fun d hd => hargs d hd (h.1 d hd)
      refine Reads.named isMarked hreads fun offset => applied_eq_ok_iff.2 ⟨?_, rfl⟩
      rw [allValues_eq_map, List.isEmpty_map]
      exact h.2

/-! ## What is read is derived -/

/-- Whether a type that denotes the given reference is derived from what was read. -/
def DerivesType (scope : Scope) (before after : List Located) (r : TypeRef) : Prop :=
  ∃ d : Derivation, before.map Located.token = d.tokens ++ after.map Located.token ∧
    d.isAllowed scope ∧ d.value scope = r

/-- Whether parameters are derived from what was read up to the closing parenthesis. -/
def DerivesParams (scope : Scope) (before after : List Located) (ps : List Param)
    (rs : List TypeRef) : Prop :=
  before.map Located.token =
      separated (Param.allTokens ps) ++ .rightParen :: after.map Located.token ∧
    Param.allAllowed scope ps ∧ Param.allValues scope ps = rs

/-- Whether type arguments are derived from what was read up to the closing angle bracket. -/
def DerivesArguments (scope : Scope) (before after : List Located) (ds : List Derivation)
    (rs : List TypeRef) : Prop :=
  before.map Located.token =
      separated (Derivation.allTokens ds) ++ .rightAngle :: after.map Located.token ∧
    Derivation.allAllowed scope ds ∧ Derivation.allValues scope ds = rs

/-- What the parts of the parser read with the given fuel is derived. -/
structure IsSound (scope : Scope) (stop fuel : Nat) : Prop where
  parseType : ∀ {before after r}, parseType scope stop fuel before = .ok (r, after) →
    DerivesType scope before after r
  parseResult : ∀ {before after params isSuspend r},
    parseResult scope stop fuel params isSuspend before = .ok (r, after) →
      ∃ arrow behind result, before = ⟨.arrow, arrow⟩ :: behind ∧
        DerivesType scope behind after result ∧ r = .ofFunction params result isSuspend false
  parseParams : ∀ {before after rs}, parseParams scope stop fuel before = .ok (rs, after) →
    ∃ ps, DerivesParams scope before after ps rs
  parseParamList : ∀ {before after rs}, parseParamList scope stop fuel before = .ok (rs, after) →
    ∃ p ps, DerivesParams scope before after (p :: ps) rs
  parseArguments : ∀ {before after rs}, parseArguments scope stop fuel before = .ok (rs, after) →
    ∃ d ds, DerivesArguments scope before after (d :: ds) rs

theorem errorAt_ne_ok {α : Type} {tokens : List Located} {cause : Cause} {a : α} :
    errorAt stop tokens cause ≠ .ok a := by
  simp [errorAt]

theorem tokens_of_withMark {r r' : TypeRef} {before after : List Located}
    (h : withMark r before = (r', after)) :
    ∃ isMarked, before.map Located.token = markTokens isMarked ++ after.map Located.token ∧
      markedRef isMarked r = r' := by
  unfold withMark at h
  split at h
  · obtain ⟨rfl, rfl⟩ := Prod.mk.inj h
    exact ⟨true, rfl, rfl⟩
  · obtain ⟨rfl, rfl⟩ := Prod.mk.inj h
    exact ⟨false, rfl, rfl⟩

theorem tokens_of_nameTail {names : List String} {before after : List Located}
    (h : nameTail stop before = .ok (names, after)) :
    before.map Located.token =
      (names.flatMap fun next => [.dot, .word next]) ++ after.map Located.token := by
  induction before using nameTail.induct generalizing names with
  | case1 name o o' rest ih =>
      rw [nameTail] at h
      obtain ⟨⟨more, rest'⟩, hmore, h⟩ := exists_of_bind_eq_ok h
      cases h
      simp [ih hmore]
  | case2 o rest hrest =>
      unfold nameTail at h
      split at h
      · next heq => exact (hrest _ _ _ (List.cons.inj heq).2).elim
      · exact absurd h errorAt_ne_ok
      · cases h
        rfl
  | case3 tokens hword hdot =>
      unfold nameTail at h
      split at h
      · exact (hword _ _ _ _ rfl).elim
      · exact (hdot _ _ rfl).elim
      · cases h
        rfl

theorem startsSuspend_cases {before : List Located} (h : startsSuspend before) :
    ∃ o o' behind, before = ⟨.word "suspend", o⟩ :: ⟨.leftParen, o'⟩ :: behind := by
  unfold startsSuspend at h
  split at h
  · next name o o' behind =>
      obtain rfl : name = "suspend" := by simpa using h
      exact ⟨o, o', behind, rfl⟩
  · cases h

/-! ### Each form of a type -/

section Forms

variable {before behind rest after : List Located} {ps : List Param} {rs : List TypeRef}
  {inner r : TypeRef} {isSuspend : Bool} {o : Nat}

theorem DerivesParams.function (hps : DerivesParams scope behind rest ps rs)
    (hbefore : before.map Located.token = (if isSuspend then [.word "suspend"] else []) ++
      .leftParen :: behind.map Located.token)
    (hresult : ∃ arrow more result, rest = ⟨.arrow, arrow⟩ :: more ∧
      DerivesType scope more after result ∧ r = .ofFunction rs result isSuspend false) :
    DerivesType scope before after r := by
  obtain ⟨htokens, hallowed, hvalues⟩ := hps
  obtain ⟨arrow, more, _, rfl, ⟨d, hd, hdallowed, rfl⟩, rfl⟩ := hresult
  refine ⟨.function isSuspend ps d, ?_, ?_, ?_⟩
  · rw [hbefore, htokens, List.map_cons, hd, Derivation.function_tokens_append]
  · rw [Derivation.isAllowed, hallowed, hdallowed, Bool.and_self]
  · rw [Derivation.value, hvalues]

theorem DerivesParams.group (hps : DerivesParams scope behind rest ps [inner])
    (hmark : withMark inner rest = (r, after)) :
    DerivesType scope (⟨.leftParen, o⟩ :: behind) after r := by
  obtain ⟨htokens, hallowed, hvalues⟩ := hps
  obtain ⟨isMarked, hrest, rfl⟩ := tokens_of_withMark hmark
  match ps, hvalues with
  | [p], hvalues =>
      obtain ⟨rfl, -⟩ := List.cons.inj hvalues
      refine ⟨.group p isMarked, ?_, ?_, rfl⟩
      · rw [List.map_cons, htokens, hrest, Derivation.group_tokens_append]
      · simpa [Param.allAllowed, Derivation.isAllowed] using hallowed

theorem derivesType_named {name : String} {names : List String} {offset : Nat}
    (ds : List Derivation) (hbefore : before.map Located.token = nameTokens (name :: names) ++
      (argumentTokens (Derivation.allTokens ds) ++ rest.map Located.token))
    (hds : Derivation.allAllowed scope ds)
    (happlied : applied scope offset (Text.joinWith "." (name :: names))
      (Derivation.allValues scope ds) = .ok inner)
    (hmark : withMark inner rest = (r, after)) : DerivesType scope before after r := by
  obtain ⟨isMarked, hrest, rfl⟩ := tokens_of_withMark hmark
  obtain ⟨hallowed, rfl⟩ := applied_eq_ok_iff.1 happlied
  rw [Derivation.allValues_eq_map, List.isEmpty_map] at hallowed
  refine ⟨.named name names ds isMarked, ?_, ?_, rfl⟩
  · rw [hbefore, hrest, Derivation.named_tokens_append]
  · rw [Derivation.isAllowed, hds, Bool.true_and, hallowed]

theorem derivesParam_of_type (h : DerivesType scope (dropLabel before) after r) :
    ∃ p : Param, before.map Located.token = p.tokens ++ after.map Located.token ∧
      p.isAllowed scope ∧ p.value scope = r := by
  obtain ⟨d, htokens, hallowed, hvalue⟩ := h
  unfold dropLabel at htokens
  split at htokens
  · next label _ _ _ =>
      refine ⟨.mk (some label) d, ?_, hallowed, hvalue⟩
      simp [htokens, Param.tokens, labelTokens]
  · exact ⟨.mk none d, htokens, hallowed, hvalue⟩

end Forms

/-! ### Each part of the parser -/

namespace IsSound

variable (sound : IsSound scope stop fuel) {before after : List Located} {r : TypeRef}
  {rs : List TypeRef}

include sound

theorem derivesType (h : TypeText.parseType scope stop (fuel + 1) before = .ok (r, after)) :
    DerivesType scope before after r := by
  unfold TypeText.parseType at h
  split at h
  · next hsuspend =>
      obtain ⟨o, o', behind, rfl⟩ := startsSuspend_cases hsuspend
      obtain ⟨⟨rs, rest⟩, hparams, h⟩ := exists_of_bind_eq_ok h
      obtain ⟨ps, hps⟩ := sound.parseParams hparams
      exact hps.function rfl (sound.parseResult h)
  split at h
  · exact absurd h errorAt_ne_ok
  split at h
  · next o behind =>
      obtain ⟨⟨rs, rest⟩, hparams, h⟩ := exists_of_bind_eq_ok h
      obtain ⟨ps, hps⟩ := sound.parseParams hparams
      dsimp only at h
      split at h
      · exact hps.function rfl (sound.parseResult h)
      · split at h
        · exact hps.group (Except.ok.inj h)
        · exact absurd h errorAt_ne_ok
  · cases h
    exact ⟨.star, rfl, rfl, rfl⟩
  · next name o behind =>
      obtain ⟨⟨names, more⟩, hnames, h⟩ := exists_of_bind_eq_ok h
      have hname := tokens_of_nameTail hnames
      dsimp only at h
      split at h
      · next o' inside =>
          obtain ⟨⟨args, rest⟩, hargs, h⟩ := exists_of_bind_eq_ok h
          obtain ⟨d, ds, hinside, hds, rfl⟩ := sound.parseArguments hargs
          obtain ⟨t, happlied, h⟩ := exists_of_bind_eq_ok h
          refine derivesType_named (d :: ds) ?_ hds happlied (Except.ok.inj h)
          simp [hname, hinside, nameTokens, argumentTokens, Derivation.allTokens]
      · obtain ⟨⟨args, rest⟩, hargs, h⟩ := exists_of_bind_eq_ok h
        cases hargs
        obtain ⟨t, happlied, h⟩ := exists_of_bind_eq_ok h
        refine derivesType_named [] ?_ rfl happlied (Except.ok.inj h)
        simp [hname, nameTokens, argumentTokens, Derivation.allTokens]
  · exact absurd h errorAt_ne_ok

theorem derivesResult {params : List TypeRef} {isSuspend : Bool}
    (h : TypeText.parseResult scope stop (fuel + 1) params isSuspend before = .ok (r, after)) :
    ∃ arrow behind result, before = ⟨.arrow, arrow⟩ :: behind ∧
      DerivesType scope behind after result ∧ r = .ofFunction params result isSuspend false := by
  unfold TypeText.parseResult at h
  split at h
  · next o behind =>
      obtain ⟨⟨result, rest⟩, hresult, h⟩ := exists_of_bind_eq_ok h
      cases h
      exact ⟨o, behind, result, rfl, sound.parseType hresult, rfl⟩
  · exact absurd h errorAt_ne_ok

theorem derivesParams (h : TypeText.parseParams scope stop (fuel + 1) before = .ok (rs, after)) :
    ∃ ps, DerivesParams scope before after ps rs := by
  unfold TypeText.parseParams at h
  split at h
  · cases h
    exact ⟨[], rfl, rfl, rfl⟩
  · obtain ⟨p, ps, hps⟩ := sound.parseParamList h
    exact ⟨p :: ps, hps⟩

theorem derivesParamList
    (h : TypeText.parseParamList scope stop (fuel + 1) before = .ok (rs, after)) :
    ∃ p ps, DerivesParams scope before after (p :: ps) rs := by
  unfold TypeText.parseParamList at h
  obtain ⟨⟨r, rest⟩, hparam, h⟩ := exists_of_bind_eq_ok h
  obtain ⟨p, hp, hpallowed, rfl⟩ := derivesParam_of_type (sound.parseType hparam)
  dsimp only at h
  split at h
  · next o behind =>
      obtain ⟨⟨rs, rest⟩, hparams, h⟩ := exists_of_bind_eq_ok h
      cases h
      obtain ⟨q, ps, htokens, hallowed, rfl⟩ := sound.parseParamList hparams
      refine ⟨p, q :: ps, ?_, by rw [Param.allAllowed, hpallowed, hallowed, Bool.and_self], rfl⟩
      simp [hp, htokens, Param.allTokens, separated]
  · cases h
    refine ⟨p, [], ?_, by rw [Param.allAllowed, hpallowed]; rfl, rfl⟩
    simp [hp, Param.allTokens, separated]
  · exact absurd h errorAt_ne_ok

theorem derivesArguments
    (h : TypeText.parseArguments scope stop (fuel + 1) before = .ok (rs, after)) :
    ∃ d ds, DerivesArguments scope before after (d :: ds) rs := by
  unfold TypeText.parseArguments at h
  obtain ⟨⟨r, rest⟩, harg, h⟩ := exists_of_bind_eq_ok h
  obtain ⟨d, hd, hdallowed, rfl⟩ := sound.parseType harg
  dsimp only at h
  split at h
  · next o behind =>
      obtain ⟨⟨rs, rest⟩, hargs, h⟩ := exists_of_bind_eq_ok h
      cases h
      obtain ⟨d', ds, htokens, hallowed, rfl⟩ := sound.parseArguments hargs
      refine ⟨d, d' :: ds, ?_, by rw [Derivation.allAllowed, hdallowed, hallowed, Bool.and_self], rfl⟩
      simp [hd, htokens, Derivation.allTokens, separated]
  · cases h
    refine ⟨d, [], ?_, by rw [Derivation.allAllowed, hdallowed]; rfl, rfl⟩
    simp [hd, Derivation.allTokens, separated]
  · exact absurd h errorAt_ne_ok

end IsSound

/-- Whatever the parser reads is derived. -/
theorem isSound (scope : Scope) (stop fuel : Nat) : IsSound scope stop fuel := by
  induction fuel with
  | zero =>
      constructor <;> intros <;> next h => exact absurd h errorAt_ne_ok
  | succ fuel sound =>
      exact ⟨sound.derivesType, sound.derivesResult, sound.derivesParams, sound.derivesParamList,
        sound.derivesArguments⟩

/-! ## Both together -/

theorem parseTokens_eq_ok_iff {located : List Located} {r : TypeRef} :
    parseTokens scope stop located = .ok r ↔
      ∃ d : Derivation, d.tokens = located.map Located.token ∧ d.isAllowed scope ∧
        d.value scope = r := by
  constructor
  · intro h
    obtain ⟨⟨t, rest⟩, hparse, h⟩ := exists_of_bind_eq_ok h
    obtain ⟨d, htokens, hallowed, hvalue⟩ := (isSound ..).parseType hparse
    cases rest with
    | nil =>
        cases h
        rw [List.map_nil, List.append_nil] at htokens
        exact ⟨d, htokens.symm, hallowed, hvalue⟩
    | cons => cases h
  · rintro ⟨d, htokens, hallowed, rfl⟩
    have hfuel : 3 * d.tokens.length ≤ enoughFuel located := by
      rw [htokens, List.length_map, enoughFuel]
      omega
    have hread : parseType scope stop (enoughFuel located) (located ++ []) =
        .ok (d.value scope, []) :=
      (d.reads hallowed).parseType htokens.symm rfl hfuel
    rw [List.append_nil] at hread
    simp [parseTokens, hread, bind, Except.bind, pure, Except.pure]

/-- A text is read as a type just if it is scanned as the tokens of a derivation in which no type parameter
    has type arguments. The derivation is the only one of these tokens, and the type is what it denotes. -/
theorem parse_eq_ok_iff (scope : Scope) (text : String) (r : TypeRef) :
    parse scope text = .ok r ↔
      ∃ located, scan 0 text.toList = .ok located ∧
        ∃ d : Derivation, d.tokens = located.map Located.token ∧ d.isAllowed scope ∧
          d.value scope = r ∧ ∀ other : Derivation, other.tokens = d.tokens → other = d := by
  constructor
  · intro h
    obtain ⟨located, hscan, h⟩ := exists_of_bind_eq_ok h
    obtain ⟨d, htokens, hallowed, hvalue⟩ := parseTokens_eq_ok_iff.1 h
    exact ⟨located, hscan, d, htokens, hallowed, hvalue, fun _ h => Derivation.tokens_injective h⟩
  · rintro ⟨located, hscan, d, htokens, hallowed, hvalue, -⟩
    rw [parse, hscan]
    exact parseTokens_eq_ok_iff.2 ⟨d, htokens, hallowed, hvalue⟩

end KotlinFakes.TypeText
