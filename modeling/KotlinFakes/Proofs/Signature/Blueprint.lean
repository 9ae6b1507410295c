import KotlinFakes.Proofs.Signature.Members

/-!
# Signatures determine blueprints

The text of a signature can be read back: of well-named blueprints no two have the same signature,
whatever version and options it is made for. So no change of a declaration escapes its signature, and
the digest misses none unless SHA-256 collides.
-/

namespace KotlinFakes

namespace Blueprint.WellNamed

variable {b : Blueprint}

theorem typeParam (h : b.WellNamed) : ∀ p ∈ b.typeParams, p.WellNamed := fun p hp =>
  ⟨h.names _ (by simp only [declaredNames, List.cons_append, List.mem_cons, List.mem_append]
                 exact .inr (.inl (.inl (List.mem_map_of_mem hp)))),
    fun bound hbound => h.types _ (by
      simp only [mentionedTypes, List.mem_append]
      exact .inl (.inl (List.mem_flatMap.2 ⟨p, hp, hbound⟩)))⟩

theorem property (h : b.WellNamed) : ∀ p ∈ b.properties, p.WellNamed := fun p hp =>
  ⟨h.names _ (by simp only [declaredNames, List.cons_append, List.mem_cons, List.mem_append]
                 exact .inr (.inl (.inr (List.mem_map_of_mem hp)))),
    h.types _ (by
      simp only [mentionedTypes, List.mem_append]
      exact .inr (List.mem_map_of_mem hp))⟩

theorem function (h : b.WellNamed) : ∀ f ∈ b.functions, f.WellNamed := by
  intro f hf
  have hname {name : String} (hname : name ∈ f.declaredNames) : Identifier.isValid name :=
    h.names _ (by
      simp only [declaredNames, List.cons_append, List.mem_cons, List.mem_append]
      exact .inr (.inr (List.mem_flatMap.2 ⟨f, hf, hname⟩)))
  have htype {t : Ty} (ht : t ∈ f.mentionedTypes) : t.WellNamed :=
    h.types _ (by
      simp only [mentionedTypes, List.mem_append]
      exact .inl (.inr (List.mem_flatMap.2 ⟨f, hf, ht⟩)))
  refine ⟨hname (by simp [Function.declaredNames]), fun p hp => ⟨hname ?_, fun t ht => htype ?_⟩,
    fun p hp => ⟨hname ?_, htype ?_⟩, htype (by simp [Function.mentionedTypes])⟩
  · exact List.mem_cons_of_mem _ (List.mem_append_right _ (List.mem_map_of_mem hp))
  · exact List.mem_append_left _ (List.mem_append_left _ (List.mem_flatMap.2 ⟨p, hp, ht⟩))
  · exact List.mem_cons_of_mem _ (List.mem_append_left _ (List.mem_map_of_mem hp))
  · exact List.mem_append_left _ (List.mem_append_right _ (List.mem_map_of_mem hp))

end Blueprint.WellNamed

namespace Signature

open Text Identifier

def typeParamsLines (index : Nat) (ps : List TypeParam) : List Char :=
  (typeParamLines index ps).flatMap fun line => line.toList ++ ['\n']

theorem typeParamsLines_cons (index : Nat) (p : TypeParam) (ps : List TypeParam) :
    typeParamsLines index (p :: ps) =
      "tp ".toList ++ ((toString index).toList ++ (' ' :: ((typeParamText p).toList ++
        '\n' :: typeParamsLines (index + 1) ps))) := by
  simp [typeParamsLines, typeParamLines]

theorem typeParamsLines_inj {ps qs : List TypeParam} (hps : ∀ p ∈ ps, p.WellNamed)
    (hqs : ∀ q ∈ qs, q.WellNamed) {index : Nat} {r r' : List Char} (hr : r.head? ≠ some 't')
    (hr' : r'.head? ≠ some 't')
    (h : typeParamsLines index ps ++ r = typeParamsLines index qs ++ r') : ps = qs ∧ r = r' := by
  have hhead (index : Nat) (p : TypeParam) (ps : List TypeParam) (r : List Char) :
      (typeParamsLines index (p :: ps) ++ r).head? = some 't' := by
    simp [typeParamsLines_cons]
  induction ps generalizing qs index with
  | nil =>
      cases qs with
      | nil => exact ⟨rfl, h⟩
      | cons q qs => exact absurd (by rw [← hhead index q qs r', ← h]; rfl) hr
  | cons p ps ih =>
      cases qs with
      | nil => exact absurd (by rw [← hhead index p ps r, h]; rfl) hr'
      | cons q qs =>
          -- Both lines have the same number, so that what follows it can be compared.
          simp only [typeParamsLines_cons, List.append_assoc, List.cons_append,
            List.append_cancel_left_eq, List.cons.injEq, true_and] at h
          obtain ⟨rfl, hrest⟩ := typeParamText_readable (hps p (by simp)) (hqs q (by simp))
            ⟨'\n', _, rfl, by decide⟩ ⟨'\n', _, rfl, by decide⟩ h
          obtain ⟨rfl, rfl⟩ := ih (fun p hp => hps p (List.mem_cons_of_mem _ hp))
            (fun q hq => hqs q (List.mem_cons_of_mem _ hq)) (List.cons.inj hrest).2
          exact ⟨rfl, rfl⟩

theorem toList_compute (version options : String) (b : Blueprint) :
    (compute version options b).text.toList =
      "fakt ".toList ++ (version.toList ++ '\n' :: ("options ".toList ++ (options.toList ++
        '\n' :: (b.supertype.text.toList ++ ' ' :: (b.qualifiedName.toList ++
          '\n' :: (typeParamsLines 0 b.typeParams ++ (b.properties.flatMap propertyLine ++
            b.functions.flatMap functionLine))))))) := by
  have hprop : propertyLine = fun p => (propertyText p).toList ++ ['\n'] := rfl
  have hfun : functionLine = fun f => (functionText f).toList ++ ['\n'] := rfl
  simp [compute, lines, String.toList_join, typeParamsLines, List.flatMap_map, hprop, hfun]

theorem supertype_inj {s s' : Supertype} {r r' : List Char}
    (h : s.text.toList ++ r = s'.text.toList ++ r') : s = s' ∧ r = r' := by
  cases s <;> cases s' <;> simp_all [Supertype.text]

theorem line_inj {line line' : String} (hline : '\n' ∉ line.toList) (hline' : '\n' ∉ line'.toList)
    {r r' : List Char} (h : line.toList ++ '\n' :: r = line'.toList ++ '\n' :: r') :
    line = line' ∧ r = r' := by
  have hrun {line : String} (hline : '\n' ∉ line.toList) : ∀ c ∈ line.toList, (c != '\n') = true :=
    fun c hc => bne_iff_ne.2 (ne_of_mem_of_not_mem hc hline)
  obtain ⟨hsame, hrest⟩ := run_append_inj (hrun hline) (hrun hline') (by simp) (by simp) h
  exact ⟨String.toList_inj.1 hsame, (List.cons.inj hrest).2⟩

theorem head?_flatMap_append {α : Type} {write : α → List Char} {mark c : Char}
    (hwrite : ∀ x, (write x).head? = some mark) (hmark : mark ≠ c) (xs : List α) {r : List Char}
    (hr : r.head? ≠ some c) : (xs.flatMap write ++ r).head? ≠ some c := by
  cases xs with
  | nil => exact hr
  | cons x xs => simpa [hwrite] using hmark

/-- The members of well-named blueprints are known from their lines. The first character of a line
    says of which kind it is. -/
theorem members_inj {b b' : Blueprint} (hb : b.WellNamed) (hb' : b'.WellNamed)
    (h : typeParamsLines 0 b.typeParams ++
        (b.properties.flatMap propertyLine ++ b.functions.flatMap functionLine) =
      typeParamsLines 0 b'.typeParams ++
        (b'.properties.flatMap propertyLine ++ b'.functions.flatMap functionLine)) :
    b.typeParams = b'.typeParams ∧ b.properties = b'.properties ∧ b.functions = b'.functions := by
  have hprop (p : Blueprint.Property) : (propertyLine p).head? = some 'p' := by
    simp [propertyLine_eq]
  have hfun (f : Blueprint.Function) : (functionLine f).head? = some 'f' := by
    simp [functionLine_eq]
  have hfuns (fs : List Blueprint.Function) {c : Char} (hc : 'f' ≠ c) :
      (fs.flatMap functionLine).head? ≠ some c := by
    simpa using head?_flatMap_append hfun hc fs (r := []) (by simp)
  obtain ⟨htypeParams, h⟩ := typeParamsLines_inj hb.typeParam hb'.typeParam
    (head?_flatMap_append hprop (by decide) _ (hfuns _ (by decide)))
    (head?_flatMap_append hprop (by decide) _ (hfuns _ (by decide))) h
  obtain ⟨hproperties, h⟩ := flatMap_readable hprop (fun _ _ => trivial)
    (fun p hp => propertyLine_readable (hb.property p hp)) hb'.property
    ⟨trivial, hfuns _ (by decide)⟩ ⟨trivial, hfuns _ (by decide)⟩ h
  obtain ⟨hfunctions, -⟩ := flatMap_readable hfun (fun _ _ => trivial)
    (fun f hf => functionLine_readable (hb.function f hf)) hb'.function
    (r := []) (s := []) ⟨trivial, by simp⟩ ⟨trivial, by simp⟩ (by simpa using h)
  exact ⟨htypeParams, hproperties, hfunctions⟩

theorem compute_inj {version version' options options' : String} {b b' : Blueprint}
    (hb : b.WellNamed) (hb' : b'.WellNamed) (hversion : '\n' ∉ version.toList)
    (hversion' : '\n' ∉ version'.toList) (hoptions : '\n' ∉ options.toList)
    (hoptions' : '\n' ∉ options'.toList)
    (h : (compute version options b).text = (compute version' options' b').text) :
    version = version' ∧ options = options' ∧ b = b' := by
  have hnewline {b : Blueprint} (hb : b.WellNamed) : '\n' ∉ b.qualifiedName.toList := fun hmem =>
    absurd (hb.inDotted_qualifiedName _ hmem) (by decide)
  have hhead := congrArg String.toList h
  rw [toList_compute, toList_compute] at hhead
  obtain ⟨hversions, hhead⟩ := line_inj hversion hversion' (List.append_cancel_left hhead)
  obtain ⟨hfingerprints, hhead⟩ := line_inj hoptions hoptions' (List.append_cancel_left hhead)
  obtain ⟨hsupertype, hhead⟩ := supertype_inj hhead
  obtain ⟨hqualified, hmembers⟩ := line_inj (hnewline hb) (hnewline hb') (List.cons.inj hhead).2
  obtain ⟨htypeParams, hproperties, hfunctions⟩ := members_inj hb hb' hmembers
  obtain ⟨hpackage, hname⟩ := QualifiedName.within_inj
    (not_mem_of_isValid hb.name (by decide)) (not_mem_of_isValid hb'.name (by decide)) hqualified
  refine ⟨hversions, hfingerprints, ?_⟩
  have hid : b.id = b'.id := by rw [hb.id_eq, hb'.id_eq, hqualified]
  have hgenerics : b.generics = b'.generics := by
    rw [hb.generics_eq, hb'.generics_eq, htypeParams, hfunctions]
  cases b
  cases b'
  simp only [Blueprint.mk.injEq]
  exact ⟨hid, hsupertype, hpackage, hname, htypeParams, hfunctions, hproperties, hgenerics⟩

theorem not_mem_fingerprint (options : FileOptions) : '\n' ∉ options.fingerprint.toList := by
  obtain ⟨hasBanner⟩ := options
  cases hasBanner <;> decide

theorem fingerprint_inj {options options' : FileOptions}
    (h : options.fingerprint = options'.fingerprint) : options = options' := by
  obtain ⟨hasBanner⟩ := options
  obtain ⟨hasBanner'⟩ := options'
  cases hasBanner <;> cases hasBanner' <;> first | rfl | exact absurd h (by decide)

theorem not_mem_generatorVersion : '\n' ∉ generatorVersion.toList := by decide

/-- What a file is made from is known from the signature that is recorded for it. -/
theorem file_inj {options options' : FileOptions} {b b' : Blueprint} (hb : b.WellNamed)
    (hb' : b'.WellNamed)
    (h : (compute generatorVersion options.fingerprint b).text =
      (compute generatorVersion options'.fingerprint b').text) : options = options' ∧ b = b' := by
  obtain ⟨-, hoptions, hblueprint⟩ := compute_inj hb hb' not_mem_generatorVersion
    not_mem_generatorVersion (not_mem_fingerprint _) (not_mem_fingerprint _) h
  exact ⟨fingerprint_inj hoptions, hblueprint⟩

/-- Subjects with named types that have files have the same signature only if they have the same
    blueprint. No change escapes the digest either, unless it makes SHA-256 collide, and equal
    recorded signatures belong to equal files. -/
theorem determines_blueprint {s t : Subject} {a b : Analysis} {version options : String}
    {fileOptions fileOptions' : FileOptions} {file file' : FakeFile} (hs : s.HasNamedTypes)
    (ht : t.HasNamedTypes) (ha : s.analyze = .ok a) (hb : t.analyze = .ok b)
    (hfile : FakeFile.generate fileOptions a.blueprint = .ok file)
    (hfile' : FakeFile.generate fileOptions' b.blueprint = .ok file')
    (hversion : '\n' ∉ version.toList) (hoptions : '\n' ∉ options.toList) :
    ((compute version options a.blueprint).text = (compute version options b.blueprint).text ↔
        a.blueprint = b.blueprint) ∧
      (((compute version options a.blueprint).digest = (compute version options b.blueprint).digest →
          (compute version options a.blueprint).text = (compute version options b.blueprint).text) →
        ((compute version options a.blueprint).digest = (compute version options b.blueprint).digest ↔
          a.blueprint = b.blueprint)) ∧
      ((compute generatorVersion fileOptions.fingerprint a.blueprint).text =
          (compute generatorVersion fileOptions'.fingerprint b.blueprint).text →
        file.text = file'.text) := by
  have hwell := hs.wellNamed_blueprint ha (FakeFile.isValid_of_generate hfile)
  have hwell' := ht.wellNamed_blueprint hb (FakeFile.isValid_of_generate hfile')
  have htext : (compute version options a.blueprint).text =
      (compute version options b.blueprint).text ↔ a.blueprint = b.blueprint := by
    constructor
    · intro h
      exact (compute_inj hwell hwell' hversion hversion hoptions hoptions h).2.2
    · intro h
      rw [h]
  refine ⟨htext, fun hsha => ⟨fun h => htext.1 (hsha h), fun h => by rw [h]⟩, fun h => ?_⟩
  obtain ⟨rfl, hblueprint⟩ := file_inj hwell hwell' h
  rw [hblueprint, hfile'] at hfile
  rw [Except.ok.inj hfile]

/-- An interface `app.Button` with a function that takes a listener of the given type. -/
def button (listener : TypeRef) : Subject where
  package := "app"
  name := "Button"
  shape := .interface
  typeParams := []
  members := [.function
    { name := "listen"
      typeParams := []
      parameters := [⟨"listener", listener, false, false⟩]
      result := .ofClass "kotlin.Unit" [] false
      isSuspend := false
      isInline := false
      modality := .abstract
      origin := .declared }]
  annotations := ["Fake"]
  requiredArguments := 0
  sourceFile := none

/-- A function type that is nullable as a whole is told from one with a nullable result. -/
theorem determines_blueprint_button :
    ∃ a b : Analysis,
      (button (.ofFunction [] (.ofClass "kotlin.Int" [] false) false true)).analyze = .ok a ∧
      (button (.ofFunction [] (.ofClass "kotlin.Int" [] true) false false)).analyze = .ok b ∧
      (compute "1" "banner=true" a.blueprint).text ≠ (compute "1" "banner=true" b.blueprint).text := by
  refine ⟨_, _, rfl, rfl, fun h => ?_⟩
  have hblueprint := (determines_blueprint
    (s := button (.ofFunction [] (.ofClass "kotlin.Int" [] false) false true))
    (t := button (.ofFunction [] (.ofClass "kotlin.Int" [] true) false false))
    (by decide) (by decide) rfl rfl (rfl : FakeFile.generate ⟨true⟩ _ = .ok _)
    (rfl : FakeFile.generate ⟨true⟩ _ = .ok _) (by decide) (by decide)).1.1 h
  exact absurd hblueprint (by decide)

end Signature

end KotlinFakes
