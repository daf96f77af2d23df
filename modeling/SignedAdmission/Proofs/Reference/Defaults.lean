import SignedAdmission.Proofs.Reference.Acceptance

/-! The defaults written out. A registry or a repository that would be filled in anyway may as well
stand in front of a name, as far as there is room for it, and the reference is the same. -/
namespace SignedAdmission.Reference

open Grammar

section Segments

/-- Segments that say in front of a path what would be filled in anyway: the default registry, where
no other one is named, and the default repository, where there is no path. -/
inductive Implied : List (List Char) → List (List Char) → Prop
  | registry {path : List (List Char)} (unregistered :
      ∀ first ∈ path.head?, isRegistryHost first = false) :
    Implied [defaultRegistry.toList] path
  | repository : Implied [defaultRepository.toList] []
  | both : Implied [defaultRegistry.toList, defaultRepository.toList] []

variable {start path : List (List Char)} {name : List Char}

theorem Implied.filled (h : Implied start path) : start ≠ [] := by
  cases h <;> exact List.cons_ne_nil _ _

theorem Implied.locate_append (h : Implied start path) : locate (start ++ path) = locate path := by
  -- Two of the three are closed lists; in the third the default registry is taken off again.
  cases h with
  | repository | both => rfl
  | registry unregistered =>
    cases path with
    | nil => rfl
    | cons first rest =>
      have host : isRegistryHost defaultRegistry.toList = true := by decide
      have other : isRegistryHost first = false := unregistered first rfl
      simp only [List.singleton_append, locate, host, other, if_true, String.ofList_toList]
      rfl

/-- Without a registry there are path components only. -/
theorem component_of_unregistered (valid : isName path name = true)
    (unregistered : ∀ first ∈ path.head?, isRegistryHost first = false) :
    ∀ component ∈ path ++ [name], Component component := by
  cases path with
  | nil =>
    rw [List.nil_append, List.forall_mem_singleton]
    exact isName_nil.mp valid
  | cons first rest =>
    obtain ⟨start, others⟩ := isName_cons.mp valid
    rw [List.cons_append, List.forall_mem_cons]
    refine ⟨?_, others⟩
    rcases start with component | domain
    · exact component
    · have local_part : isRegistryHost first = false := unregistered first rfl
      exact isComponent_iff.mp (isComponent_of_isDomain (isDomain_iff.mpr domain) local_part)

theorem isName_of_components (valid : ∀ component ∈ path ++ [name], Component component) :
    isName path name = true := by
  cases path with
  | nil => exact isName_nil.mpr (valid name List.mem_cons_self)
  | cons first rest =>
    rw [List.cons_append, List.forall_mem_cons] at valid
    exact isName_cons.mpr ⟨.inl valid.1, valid.2⟩

theorem Implied.components (h : Implied start path) : ∀ component ∈ start, Component component := by
  have registry : Component defaultRegistry.toList := isComponent_iff.mp (by decide)
  have library : Component defaultRepository.toList := isComponent_iff.mp (by decide)
  cases h <;> simp [registry, library]

theorem Implied.unregistered (h : Implied start path) :
    ∀ first ∈ path.head?, isRegistryHost first = false := by
  cases h with
  | registry unregistered => exact unregistered
  | repository | both => simp

theorem Implied.isName_append (h : Implied start path) (valid : isName path name = true) :
    isName (start ++ path) name = true := by
  apply isName_of_components
  rw [List.append_assoc, List.forall_mem_append]
  exact ⟨h.components, component_of_unregistered valid h.unregistered⟩

end Segments

namespace Spelling

variable {s : Spelling} {start : List (List Char)}

/-- The same with more segments in front. -/
def below (s : Spelling) (start : List (List Char)) : Spelling :=
  { s with path := start ++ s.path }

theorem fullName_below (s : Spelling) (filled : start ≠ []) :
    (s.below start).fullName = Text.join '/' start ++ '/' :: s.fullName := by
  rw [fullName, below, List.append_assoc, Text.join_append filled (by simp)]
  rfl

theorem text_below (s : Spelling) (filled : start ≠ []) :
    (s.below start).text = Text.join '/' start ++ '/' :: s.text := by
  have tag : (s.below start).tagText = s.tagText := rfl
  have digest : (s.below start).digestText = s.digestText := rfl
  rw [text, s.fullName_below filled, tag, digest, text]
  simp only [List.append_assoc, List.cons_append]

theorem reference_below (s : Spelling) (h : Implied start s.path) :
    (s.below start).reference = s.reference := by
  rw [reference, below, h.locate_append]
  rfl

theorem Named.below (named : s.Named) (h : Implied start s.path) : (s.below start).Named where
  name := h.isName_append named.name
  tag := named.tag

/-- What stands in front of a name takes up some of its room and changes nothing else. -/
theorem Named.parse_below (named : s.Named) (fits : s.fits = true) (h : Implied start s.path)
    {text : String} (spelled : text.toList = Text.join '/' start ++ '/' :: s.text) :
    parse text =
      if (Text.join '/' start).length + 1 + s.fullName.length ≤ maxNameLength then .ok s.reference
      else .error (.reference text) := by
  have digest : s.digest.all isDigest = true := by
    rw [Spelling.fits, Bool.and_eq_true] at fits
    exact fits.1
  have room : (s.below start).fits = true ↔
      (Text.join '/' start).length + 1 + s.fullName.length ≤ maxNameLength := by
    have digest_below : (s.below start).digest = s.digest := rfl
    rw [Spelling.fits, digest_below, digest, Bool.true_and, decide_eq_true_eq,
      s.fullName_below h.filled, List.length_append, List.length_cons, Nat.add_right_comm,
      Nat.add_assoc]
  have read : ofText? text = if (s.below start).fits = true then some s.reference else none := by
    rw [← String.ofList_toList (s := text), spelled, ← s.text_below h.filled,
      ofText?_text (named.below h), s.reference_below h]
  rw [parse, read]
  by_cases short : (Text.join '/' start).length + 1 + s.fullName.length ≤ maxNameLength
  · rw [if_pos (room.mpr short), if_pos short]
  · rw [if_neg (mt room.mp short), if_neg short]

end Spelling

/-- No segment of a name is taken for a registry: there is one segment only, or the first one does
not look like a host. -/
def Unregistered (name : List Char) : Prop :=
  ∀ first ∈ (Text.split '/' name).dropLast.head?, isRegistryHost first = false

/-- Images of the default registry are the same however much of it is written out. A text without a
registry may have the default one in front, and a text of one segment the default repository as well
or alone, whatever tag and digest it has; it is refused only if its name gets too long by that. -/
theorem default_spellings_agree {text : String} {r : Reference} {parts : Parts}
    (parsed : parse text = .ok r) (derived : parts.Derived) (spelled : text.toList = parts.text) :
    (Unregistered parts.name →
      parse ("docker.io/" ++ text) =
        if "docker.io/".length + parts.name.length ≤ maxNameLength then .ok r
        else .error (.reference ("docker.io/" ++ text))) ∧
      ('/' ∉ parts.name → ∀ start ∈ ["library/", "docker.io/", "docker.io/library/"],
        parse (start ++ text) =
          if start.length + parts.name.length ≤ maxNameLength then .ok r
          else .error (.reference (start ++ text))) := by
  obtain ⟨s, named, fits, rfl⟩ := Spelling.exists_of_derived derived
  rw [s.text_parts] at spelled
  have read : parse text = .ok s.reference := by
    rw [parse_eq_ok, ← String.ofList_toList (s := text), spelled, Spelling.ofText?_text named,
      if_pos fits]
  obtain rfl : s.reference = r := Except.ok.inj (read.symm.trans parsed)
  have prefixed {start : String} {segments : List (List Char)} (h : Implied segments s.path)
      (written : start.toList = Text.join '/' segments ++ ['/']) :
      parse (start ++ text) =
        if start.length + s.fullName.length ≤ maxNameLength then .ok s.reference
        else .error (.reference (start ++ text)) := by
    have length : start.length = (Text.join '/' segments).length + 1 := by
      rw [← String.length_toList, written, List.length_append, List.length_singleton]
    have whole : (start ++ text).toList = Text.join '/' segments ++ '/' :: s.text := by
      rw [String.toList_append, written, spelled, List.append_assoc, List.singleton_append]
    rw [named.parse_below fits h whole, length]
  constructor
  · intro unregistered
    rw [Unregistered, Spelling.parts, named.split_fullName, List.dropLast_concat] at unregistered
    exact prefixed (.registry unregistered) rfl
  · intro slashless
    have bare : s.path = [] := by
      have one : Text.split '/' s.fullName = [] ++ [s.fullName] := Text.split_of_not_mem slashless
      rw [named.split_fullName] at one
      exact List.append_inj_left' one rfl
    rw [bare] at prefixed
    intro start written
    simp only [List.mem_cons, List.not_mem_nil, or_false] at written
    rcases written with rfl | rfl | rfl
    · exact prefixed .repository rfl
    · exact prefixed (.registry (by simp)) rfl
    · exact prefixed .both rfl

section Samples

def sampleDigits : List Char :=
  List.replicate 64 'c'

def pinnedParts : Parts :=
  ⟨"nginx".toList, some "1.25".toList, some sampleDigits⟩

/-- What the short text of an image of the default registry stands for. -/
def pinnedImage : Reference :=
  ⟨defaultRegistry, defaultRepository, "nginx", some "1.25", some (String.ofList sampleDigits)⟩

theorem derived_pinnedParts : pinnedParts.Derived where
  name := name_iff.mpr ⟨[], "nginx".toList, by decide, rfl⟩
  short := by decide
  tag := by
    intro tag tagged
    obtain rfl := Option.some.inj tagged
    exact isTag_iff.mp (by decide)
  digest := by
    intro digest pinned
    obtain rfl := Option.some.inj pinned
    exact isDigest_iff.mp (by decide +kernel)

theorem parse_pinnedParts : parse (String.ofList pinnedParts.text) = .ok pinnedImage :=
  parse_eq_ok.mpr (by decide +kernel)

def teamParts : Parts :=
  ⟨"team/image".toList, none, none⟩

theorem derived_teamParts : teamParts.Derived where
  name := name_iff.mpr ⟨["team".toList], "image".toList, by decide, rfl⟩
  short := by decide
  tag := by
    intro tag tagged
    contradiction
  digest := by
    intro digest pinned
    contradiction

theorem unregistered_teamParts : Unregistered teamParts.name := by
  intro first start
  obtain rfl : "team".toList = first := Option.some.inj start
  decide

theorem default_spellings_agree_of_samples :
    (parse (String.ofList pinnedParts.text) = .ok pinnedImage ∧
      ∀ start ∈ ["library/", "docker.io/", "docker.io/library/"],
        parse (start ++ String.ofList pinnedParts.text) = .ok pinnedImage) ∧
    parse "team/image" = .ok teamImage ∧ parse ("docker.io/" ++ "team/image") = .ok teamImage := by
  obtain ⟨-, pinned⟩ :=
    default_spellings_agree parse_pinnedParts derived_pinnedParts (String.toList_ofList ..)
  obtain ⟨team, -⟩ := default_spellings_agree parse_teamImage derived_teamParts rfl
  have short : ∀ start ∈ ["library/", "docker.io/", "docker.io/library/"],
      start.length + pinnedParts.name.length ≤ maxNameLength := by decide
  refine ⟨⟨parse_pinnedParts, ?_⟩, parse_teamImage, ?_⟩
  · intro start written
    rw [pinned (by decide) start written, if_pos (short start written)]
  · rw [team unregistered_teamParts, if_pos (by decide)]

end Samples

end SignedAdmission.Reference
