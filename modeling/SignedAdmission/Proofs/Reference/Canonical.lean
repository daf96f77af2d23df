import SignedAdmission.Proofs.Reference.Spelling

/-! Canonical texts. The canonical text of a reference spells it with registry, repository and tag
written out, and is read back as the same reference unless it is too long for a name. -/
namespace SignedAdmission.Reference

/-- The registry and the repository that a path stands for: the first part is taken for a registry
if it looks like one, and on the default registry a repository is never left out. -/
inductive Located : List (List Char) → List Char → List (List Char) → Prop
  | host {first rest} (registry : IsRegistry first) (path : ∀ part ∈ rest, isComponent part = true)
    (elsewhere : rest = [] → first ≠ defaultRegistry.toList) : Located (first :: rest) first rest
  | hub {first rest} (unregistered : isRegistryHost first = false)
    (path : ∀ part ∈ first :: rest, isComponent part = true) :
    Located (first :: rest) defaultRegistry.toList (first :: rest)
  | library : Located [] defaultRegistry.toList [defaultRepository.toList]
  | hubLibrary :
    Located [defaultRegistry.toList] defaultRegistry.toList [defaultRepository.toList]

section Locating

variable {path parts : List (List Char)} {registry name : List Char}

theorem isComponent_defaultRepository : isComponent defaultRepository.toList = true := by
  decide

theorem Located.isRegistry (h : Located path registry parts) : IsRegistry registry := by
  cases h with
  | host registry => exact registry
  | hub | library | hubLibrary => exact isRegistry_defaultRegistry

theorem Located.isComponent (h : Located path registry parts) :
    ∀ part ∈ parts, isComponent part = true := by
  cases h with
  | host _ path => exact path
  | hub _ path => exact path
  | library | hubLibrary => simpa using isComponent_defaultRepository

theorem Located.elsewhere (h : Located path registry parts) (bare : parts = []) :
    registry ≠ defaultRegistry.toList := by
  cases h with
  | host _ _ elsewhere => exact elsewhere bare
  | hub | library | hubLibrary => contradiction

/-- Only references to the default registry are longer than the name they are parsed from. -/
theorem Located.length (h : Located path registry parts) (name : List Char) :
    Text.join '/' (registry :: parts ++ [name]) = Text.join '/' (path ++ [name]) ∨
      registry = defaultRegistry.toList ∧
        (Text.join '/' (registry :: parts ++ [name])).length ≤
          (Text.join '/' (path ++ [name])).length +
            (defaultRegistry ++ "/" ++ defaultRepository ++ "/").length := by
  have slash : "/".length = 1 := rfl
  cases h with
  | host => exact .inl rfl
  | hub =>
    refine .inr ⟨rfl, ?_⟩
    rw [List.cons_append, Text.join_cons (by simp)]
    simp only [List.length_append, List.length_cons, String.length_append, String.length_toList]
    omega
  | library | hubLibrary =>
    refine .inr ⟨rfl, ?_⟩
    simp only [List.cons_append, List.nil_append, Text.join_cons (List.cons_ne_nil _ _),
      Text.join_singleton, List.length_append, List.length_cons, String.length_append,
      String.length_toList]
    omega

theorem exists_located (h : isName path name = true) :
    ∃ registry parts, Located path registry parts ∧
      locate path = (String.ofList registry, String.ofList (Text.join '/' parts)) := by
  simp only [isName, Bool.and_eq_true] at h
  cases path with
  | nil => exact ⟨_, _, .library, by simp [locate]⟩
  | cons first rest =>
    simp only [Bool.and_eq_true, Bool.or_eq_true, List.all_eq_true] at h
    obtain ⟨-, first_valid, rest_valid⟩ := h
    have filled : ∀ part ∈ rest, part ≠ [] :=
      fun part member => ne_nil_of_isComponent (rest_valid part member)
    cases host : isRegistryHost first with
    | false =>
      have component : isComponent first = true :=
        first_valid.elim id fun domain => isComponent_of_isDomain domain host
      have path_valid : ∀ part ∈ first :: rest, isComponent part = true :=
        List.forall_mem_cons.mpr ⟨component, rest_valid⟩
      have named : Text.join '/' (first :: rest) ≠ [] := by
        rw [Ne, Text.join_eq_nil fun part member => ne_nil_of_isComponent (path_valid part member)]
        simp
      exact ⟨_, _, .hub host path_valid, by simp [locate, host, named]⟩
    | true =>
      by_cases bare : rest = [] ∧ first = defaultRegistry.toList
      · obtain ⟨rfl, rfl⟩ := bare
        exact ⟨_, _, .hubLibrary, by simp [locate, host]⟩
      · refine ⟨first, rest, .host ⟨first_valid, host⟩ rest_valid (not_and.mp bare), ?_⟩
        have elsewhere : ¬ (rest = [] ∧ String.ofList first = defaultRegistry) := by
          rintro ⟨empty, same⟩
          exact bare ⟨empty, by rw [← same, String.toList_ofList]⟩
        simp [locate, host, Text.join_eq_nil filled, elsewhere]

end Locating

/-- The components of the repository. -/
def path (r : Reference) : List (List Char) :=
  if r.repository = "" then [] else Text.split '/' r.repository.toList

/-- The parts that the canonical text of a reference is put together from. -/
def spelling (r : Reference) : Spelling where
  path := r.registry.toList :: r.path
  name := r.name.toList
  tag := r.tag.map String.toList
  digest := r.digest.map String.toList

theorem join_path (r : Reference) : Text.join '/' r.path = r.repository.toList := by
  rw [path]
  split
  case isTrue empty => rw [empty, Text.join_nil, String.toList_empty]
  case isFalse => exact Text.join_split '/' _

theorem path_of_join {r : Reference} {parts : List (List Char)}
    (h : r.repository = String.ofList (Text.join '/' parts))
    (components : ∀ part ∈ parts, isComponent part = true) : r.path = parts := by
  have filled : ∀ part ∈ parts, part ≠ [] :=
    fun part member => ne_nil_of_isComponent (components part member)
  have slashless : ∀ part ∈ parts, '/' ∉ part := fun part member slash =>
    absurd (isNameChar_of_isComponent (components part member) '/' slash) (by decide)
  have empty : r.repository = "" ↔ parts = [] := by
    rw [h, String.ofList_eq_empty_iff, Text.join_eq_nil filled]
  by_cases bare : parts = []
  · rw [path, if_pos (empty.mpr bare), bare]
  · rw [path, if_neg (mt empty.mp bare), h, String.toList_ofList, Text.split_join bare slashless]

theorem repositoryPath_toList (r : Reference) :
    r.repositoryPath.toList = r.spelling.fullName := by
  have joined := r.join_path
  rw [repositoryPath, Spelling.fullName, spelling, List.cons_append,
    Text.join_cons (by simp)]
  by_cases bare : r.repository = ""
  · simp [path, bare]
  · have named : r.path ≠ [] := by
      rw [path, if_neg bare]
      exact Text.split_ne_nil '/' _
    rw [if_neg bare, Text.join_append named (by simp), joined]
    simp

theorem canonical_toList (r : Reference) : r.canonical.toList = r.spelling.text := by
  rw [canonical, Spelling.text, ← repositoryPath_toList]
  cases tag : r.tag <;> cases digest : r.digest <;>
    simp [spelling, Spelling.tagText, Spelling.digestText, tag, digest]

/-- What parsing establishes about registry, repository, name and tag. -/
structure WellNamed (r : Reference) : Prop where
  registry : IsRegistry r.registry.toList
  path : ∀ part ∈ r.path, isComponent part = true
  elsewhere : r.path = [] → r.registry ≠ defaultRegistry
  name : isComponent r.name.toList = true
  tag : ∀ tag ∈ r.tag, isTag tag.toList = true

/-- What parsing establishes about a reference as a whole. -/
structure WellFormed (r : Reference) : Prop extends WellNamed r where
  digest : ∀ digest ∈ r.digest, isDigest digest.toList = true
  addressed : r.tag = none → r.digest ≠ none

section Reading

variable {r : Reference} {s : Spelling} {text : String}

theorem WellNamed.named (h : r.WellNamed) : r.spelling.Named where
  name := by
    simp only [spelling, isName, h.name, Bool.true_and, Bool.and_eq_true, Bool.or_eq_true,
      List.all_eq_true]
    exact ⟨h.registry.1, h.path⟩
  tag := by
    simpa [spelling] using h.tag

/-- The defaults change nothing where everything is written out. -/
theorem WellNamed.reference_spelling (h : r.WellNamed)
    (addressed : r.tag = none → r.digest ≠ none) : r.spelling.reference = r := by
  have located : locate (r.registry.toList :: r.path) = (r.registry, r.repository) := by
    have elsewhere : ¬ (r.repository = "" ∧ r.registry = defaultRegistry) := by
      rintro ⟨bare, same⟩
      exact h.elsewhere (by rw [Reference.path, if_pos bare]) same
    simp [locate, h.registry.2, join_path, elsewhere]
  cases r with
  | mk registry repository name tag digest =>
    cases tag <;> cases digest <;>
      simp_all [Spelling.reference, spelling]

/-- The canonical text is read back, unless it is too long or its digest is not one. -/
theorem WellNamed.ofText?_canonical (h : r.WellNamed) (addressed : r.tag = none → r.digest ≠ none) :
    ofText? r.canonical = if r.spelling.fits = true then some r else none := by
  rw [← String.ofList_toList (s := r.canonical), canonical_toList, Spelling.ofText?_text h.named,
    h.reference_spelling addressed]

theorem fits_spelling (r : Reference) :
    r.spelling.fits = true ↔
      (∀ digest ∈ r.digest, isDigest digest.toList = true) ∧
        r.repositoryPath.length ≤ maxNameLength := by
  rw [← String.length_toList, repositoryPath_toList]
  cases digest : r.digest <;> simp [Spelling.fits, spelling, digest]

/-- Every accepted text spells a well-formed reference. -/
theorem Spelling.exists_located (named : s.Named) :
    ∃ registry parts, Located s.path registry parts ∧
      s.reference.registry = String.ofList registry ∧ s.reference.path = parts := by
  obtain ⟨registry, parts, located, same⟩ := Reference.exists_located named.name
  refine ⟨registry, parts, located, by simp [reference, same], ?_⟩
  exact path_of_join (by simp [reference, same]) located.isComponent

theorem isTag_defaultTag : isTag defaultTag.toList = true := by
  decide

theorem Spelling.isTag_reference (named : s.Named) :
    ∀ tag ∈ s.reference.tag, isTag tag.toList = true := by
  intro tag tagged
  cases written : s.tag with
  | some spelled =>
    obtain rfl : String.ofList spelled = tag := by simpa [reference, written] using tagged
    rw [String.toList_ofList]
    exact named.tag spelled written
  | none =>
    cases digest : s.digest with
    | none =>
      obtain rfl : defaultTag = tag := by simpa [reference, written, digest] using tagged
      exact isTag_defaultTag
    | some digits => simp [reference, written, digest] at tagged

theorem Spelling.wellFormed_reference (named : s.Named) (fits : s.fits = true) :
    s.reference.WellFormed := by
  obtain ⟨registry, parts, located, registry_eq, path_eq⟩ := exists_located named
  simp only [Spelling.fits, Bool.and_eq_true, Option.all_eq_true] at fits
  refine { registry := ?_, path := ?_, elsewhere := ?_, name := ?_, tag := isTag_reference named,
           digest := ?_, addressed := ?_ }
  · rw [registry_eq, String.toList_ofList]
    exact located.isRegistry
  · rw [path_eq]
    exact located.isComponent
  · rw [path_eq, registry_eq]
    intro bare same
    exact located.elsewhere bare (by rw [← same, String.toList_ofList])
  · simpa [reference] using named.component_name
  · simpa [reference] using fits.1
  · cases tag : s.tag <;> cases digest : s.digest <;> simp [reference, tag, digest]

/-- The defaults make a name longer only on the default registry. -/
theorem Spelling.length_repositoryPath (named : s.Named) :
    s.reference.repositoryPath.length = s.fullName.length ∨
      s.reference.registry = defaultRegistry ∧
        s.reference.repositoryPath.length ≤
          s.fullName.length + (defaultRegistry ++ "/" ++ defaultRepository ++ "/").length := by
  obtain ⟨registry, parts, located, registry_eq, path_eq⟩ := exists_located named
  have name_eq : s.reference.name.toList = s.name := by simp [reference]
  rw [← String.length_toList, repositoryPath_toList]
  simp only [spelling, fullName, registry_eq, path_eq, name_eq, String.toList_ofList]
  obtain same | ⟨default, longer⟩ := located.length s.name
  · exact .inl (congrArg List.length same)
  · exact .inr ⟨by rw [default, String.ofList_toList], longer⟩

theorem parse_eq_ok : parse text = .ok r ↔ ofText? text = some r := by
  rw [parse]
  cases ofText? text <;> simp

theorem parse_of_none (h : ofText? text = none) : parse text = .error (.reference text) := by
  rw [parse, h]

/-- The canonical text of a reference with valid parts is read back, if it also has a valid digest
or none and its name is not too long. -/
theorem WellNamed.parse_canonical_eq_ok (h : r.WellNamed)
    (addressed : r.tag = none → r.digest ≠ none) :
    parse r.canonical = .ok r ↔
      (∀ digest ∈ r.digest, isDigest digest.toList = true) ∧
        r.repositoryPath.length ≤ maxNameLength := by
  rw [parse_eq_ok, h.ofText?_canonical addressed, ← fits_spelling]
  split <;> simp [*]

/-- The canonical text of a reference with valid parts is read as no other reference. -/
theorem WellNamed.eq_of_parse_canonical {again : Reference} (h : r.WellNamed)
    (addressed : r.tag = none → r.digest ≠ none) (read : parse r.canonical = .ok again) :
    again = r := by
  rw [parse_eq_ok, h.ofText?_canonical addressed] at read
  split at read
  · exact (Option.some.inj read).symm
  · contradiction

theorem wellFormed_of_parse (h : parse text = .ok r) : r.WellFormed := by
  obtain ⟨s, named, fits, -, rfl⟩ := exists_spelling (parse_eq_ok.mp h)
  exact s.wellFormed_reference named fits

/-- The canonical text of a parsed reference is read back as that reference, unless the written-out
name is too long. That can only happen on the default registry, where parsing adds to the name. -/
theorem parse_canonical (h : parse text = .ok r) :
    parse r.canonical =
        (if r.repositoryPath.length ≤ maxNameLength then .ok r
          else .error (.reference r.canonical)) ∧
      (maxNameLength < r.repositoryPath.length →
        r.registry = defaultRegistry ∧
          maxNameLength <
            text.length + (defaultRegistry ++ "/" ++ defaultRepository ++ "/").length) := by
  have formed := wellFormed_of_parse h
  have fits := r.fits_spelling
  rw [and_iff_right formed.digest] at fits
  refine ⟨?_, fun long => ?_⟩
  · rw [parse, formed.ofText?_canonical formed.addressed]
    by_cases short : r.repositoryPath.length ≤ maxNameLength <;> simp [fits, short]
  · obtain ⟨s, named, spelling_fits, spelled, rfl⟩ := exists_spelling (parse_eq_ok.mp h)
    simp only [Spelling.fits, Bool.and_eq_true, decide_eq_true_eq] at spelling_fits
    obtain ⟨-, short⟩ := spelling_fits
    have written : s.fullName.length ≤ text.length := by
      rw [← String.length_toList, spelled, Spelling.text, List.append_assoc, List.length_append]
      omega
    obtain same | ⟨default, longer⟩ := s.length_repositoryPath named
    · omega
    · exact ⟨default, by omega⟩

end Reading

/-- What `team/image` stands for. -/
def teamImage : Reference :=
  ⟨defaultRegistry, "team", "image", some defaultTag, none⟩

theorem parse_teamImage : parse "team/image" = .ok teamImage :=
  parse_eq_ok.mpr (by decide +kernel)

theorem parse_canonical_of_teamImage :
    parse "team/image" = .ok teamImage ∧
      parse teamImage.canonical =
        (if teamImage.repositoryPath.length ≤ maxNameLength then .ok teamImage
          else .error (.reference teamImage.canonical)) ∧
      (maxNameLength < teamImage.repositoryPath.length →
        teamImage.registry = defaultRegistry ∧
          maxNameLength <
            "team/image".length + (defaultRegistry ++ "/" ++ defaultRepository ++ "/").length) :=
  ⟨parse_teamImage, parse_canonical parse_teamImage⟩

/-- What a name without anything else stands for. -/
def ofName (name : List Char) : Reference :=
  ⟨defaultRegistry, defaultRepository, String.ofList name, some defaultTag, none⟩

theorem parse_name {name : List Char} (component : isComponent name = true)
    (short : name.length ≤ maxNameLength) : parse (String.ofList name) = .ok (ofName name) := by
  let s : Spelling := ⟨[], name, none, none⟩
  have named : s.Named := Spelling.named_iff.mpr ⟨by simp [s, isName, component], rfl⟩
  have text : s.text = name := by simp [s, Spelling.text, Spelling.fullName, Spelling.tagText,
    Spelling.digestText]
  have fits : s.fits = true := by simpa [s, Spelling.fits, Spelling.fullName] using short
  have filled : s.reference = ofName name := by simp [s, Spelling.reference, ofName, locate]
  rw [parse_eq_ok, ← text, Spelling.ofText?_text named, if_pos fits, filled, text]

theorem length_repositoryPath_ofName (name : List Char) :
    (ofName name).repositoryPath.length =
      (defaultRegistry ++ "/" ++ defaultRepository ++ "/").length + name.length := by
  simp [ofName, repositoryPath, defaultRepository, String.length_append]

/-- A name that leaves no room for the registry and the repository that parsing adds to it. -/
def longName : List Char :=
  List.replicate 240 'a'

theorem canonical_of_longName_refused :
    parse (String.ofList longName) = .ok (ofName longName) ∧
      parse (ofName longName).canonical = .error (.reference (ofName longName).canonical) := by
  have parsed : parse (String.ofList longName) = .ok (ofName longName) :=
    parse_name (by decide +kernel) (by decide +kernel)
  have formed := wellFormed_of_parse parsed
  have long : ¬ (ofName longName).repositoryPath.length ≤ maxNameLength := by
    rw [length_repositoryPath_ofName, longName, List.length_replicate]
    decide
  have unfit : ¬ (ofName longName).spelling.fits = true :=
    fun fits => long ((fits_spelling _).mp fits).2
  exact ⟨parsed, parse_of_none (by rw [formed.ofText?_canonical formed.addressed, if_neg unfit])⟩

end SignedAdmission.Reference
