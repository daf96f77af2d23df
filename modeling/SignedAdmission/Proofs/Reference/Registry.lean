import SignedAdmission.Proofs.Reference.Acceptance

/-! The parts of references that have been read. All of them are derived by the grammar, except that
the registry may be a path component instead of a domain. The first component of a path is taken for
the registry if it has a dot, even where an underscore keeps it from being a host. -/
namespace SignedAdmission.Reference

open Grammar

section Hosts

variable {cs : List Char} {count : ℕ}

theorem Grammar.label_iff :
    Label cs ↔ (∀ c ∈ cs, c.isAlphanum = true ∨ c = '-') ∧ cs.head?.any Char.isAlphanum = true ∧
      cs.getLast?.any Char.isAlphanum = true := by
  rw [← isLabel_iff]
  simp [isLabel, and_assoc]

theorem Grammar.Run.isAlphanum (h : Run cs) : ∀ c ∈ cs, c.isAlphanum = true := by
  intro c member
  rcases h.chars c member with lower | digit
  · simp [Char.isAlphanum, isAlpha_eq, lower]
  · simp [Char.isAlphanum, digit]

theorem Grammar.Run.label (h : Run cs) : Label cs := by
  refine label_iff.mpr ⟨?_, ?_, ?_⟩
  · intro c member
    exact .inl (h.isAlphanum c member)
  · rw [List.head?_eq_some_head h.filled, Option.any_some]
    exact h.isAlphanum _ (List.head_mem h.filled)
  · rw [List.getLast?_eq_some_getLast h.filled, Option.any_some]
    exact h.isAlphanum _ (List.getLast_mem h.filled)

/-- Hyphens and a run after a label make it a longer label. -/
theorem Grammar.Label.append_run {run : List Char} (h : Label cs) (after : Run run) :
    Label (cs ++ List.replicate count '-' ++ run) := by
  obtain ⟨chars, starts, -⟩ := label_iff.mp h
  obtain ⟨run_chars, -, ends⟩ := label_iff.mp after.label
  refine label_iff.mpr ⟨?_, ?_, ?_⟩
  · rw [List.forall_mem_append, List.forall_mem_append]
    refine ⟨⟨chars, ?_⟩, run_chars⟩
    intro c member
    exact .inr (List.eq_of_mem_replicate member)
  · cases cs with
    | nil => simp at starts
    | cons c cs => simpa using starts
  · rw [List.getLast?_append_of_ne_nil _ after.filled]
    exact ends

/-- An underscore is all that keeps a component from being a host. -/
theorem Grammar.Component.host (h : Component cs) (plain : '_' ∉ cs) : Host cs := by
  induction h with
  | @run cs run =>
    have joined : Text.join '.' [cs] = cs := Text.join_singleton
    rw [← joined]
    apply Host.intro (List.cons_ne_nil cs [])
    simpa using run.label
  | @append before separator run component between after ih =>
    simp only [List.mem_append, not_or] at plain
    obtain ⟨labels, valid, filled, rfl⟩ : ∃ labels, (∀ label ∈ labels, Label label) ∧ labels ≠ [] ∧
        before = Text.join '.' labels := by
      cases ih plain.1.1 with
      | intro filled valid => exact ⟨_, valid, filled, rfl⟩
    cases between with
    | underscore => simp at plain
    | twoUnderscores => simp at plain
    | dot =>
      have last : Text.join '.' [run] = run := Text.join_singleton
      rw [List.append_assoc, List.singleton_append, ← last,
        ← Text.join_append filled (List.cons_ne_nil run [])]
      apply Host.intro (by simp)
      rw [List.forall_mem_append, List.forall_mem_singleton]
      exact ⟨valid, after.label⟩
    | hyphens count =>
      obtain ⟨inner, last, rfl⟩ := (List.eq_nil_or_concat' labels).resolve_left filled
      rw [List.forall_mem_append, List.forall_mem_singleton] at valid
      rw [List.append_assoc, Text.join_concat_append, ← List.append_assoc]
      apply Host.intro (by simp)
      rw [List.forall_mem_append, List.forall_mem_singleton]
      exact ⟨valid.1, valid.2.append_run after⟩

theorem Grammar.Domain.not_mem (h : Domain cs) : '_' ∉ cs := by
  cases h with
  | bare valid => exact valid.not_mem (.inr rfl)
  | withPort valid number =>
    rw [List.mem_append, List.mem_cons, not_or, not_or]
    refine ⟨valid.not_mem (.inr rfl), by decide, ?_⟩
    intro member
    exact absurd (number.digits '_' member) (by decide)

theorem Grammar.Component.domain_iff (h : Component cs) : Domain cs ↔ '_' ∉ cs := by
  constructor
  · intro domain
    exact domain.not_mem
  · intro plain
    exact .bare (h.host plain)

end Hosts

section Registries

variable {cs : List Char}

theorem isUpper_of_isLowerAlnum {c : Char} (h : isLowerAlnum c = true) : c.isUpper = false := by
  have first : 'a'.toNat = 97 := rfl
  have last : 'Z'.toNat = 90 := rfl
  have digit : '9'.toNat = 57 := rfl
  have capital : 'A'.toNat = 65 := rfl
  rw [isLowerAlnum_iff, isLower_iff, Char.isDigit_iff_toNat] at h
  rw [Bool.eq_false_iff, Ne, isUpper_iff]
  omega

theorem any_isUpper_of_isComponent (h : isComponent cs = true) : cs.any Char.isUpper = false := by
  rw [List.any_eq_false]
  intro c member
  rcases isComponent_chars h c member with lower | rfl | rfl | rfl
  · simp [isUpper_of_isLowerAlnum lower]
  all_goals decide

/-- Only a dot gets a component that cannot be a domain taken for a registry. -/
theorem isRegistryHost_iff (component : Component cs) (confined : ¬ Domain cs) :
    isRegistryHost cs = true ↔ '.' ∈ cs := by
  have valid := isComponent_iff.mpr component
  have portless := colon_not_mem_of_isComponent valid
  have named : cs ≠ "localhost".toList := by
    rintro rfl
    exact confined (component.domain_iff.mpr (by decide))
  simp only [isRegistryHost, any_isUpper_of_isComponent valid, Bool.or_false, Bool.or_eq_true,
    List.contains_eq_mem, decide_eq_true_eq, beq_iff_eq, portless, named, or_false]

theorem IsRegistry.domain_or_component (h : IsRegistry cs) :
    Domain cs ∨ Component cs ∧ '.' ∈ cs ∧ '_' ∈ cs := by
  by_cases domain : Domain cs
  · exact .inl domain
  · obtain ⟨valid, host⟩ := h
    have component : Component cs :=
      isComponent_iff.mp (valid.resolve_right (mt isDomain_iff.mp domain))
    have underscore : '_' ∈ cs := by
      rw [component.domain_iff, not_not] at domain
      exact domain
    exact .inr ⟨component, (isRegistryHost_iff component domain).mp host, underscore⟩

end Registries

section Parsed

variable {r : Reference} {text : String}

/-- The grammar derives every part, with a dotted component in place of a domain at most. Nothing on
the default registry is without a repository, and nothing is without both a tag and a digest. -/
structure Grammatical (r : Reference) : Prop where
  registry : Domain r.registry.toList ∨
    Component r.registry.toList ∧ '.' ∈ r.registry.toList ∧ '_' ∈ r.registry.toList
  repository : r.repository = "" ∨ Path r.repository.toList
  filled : r.registry = defaultRegistry → r.repository ≠ ""
  name : Component r.name.toList
  addressed : r.tag ≠ none ∨ r.digest ≠ none
  tag : ∀ tag ∈ r.tag, Tag tag.toList
  digest : ∀ digest ∈ r.digest, Digest digest.toList

theorem WellFormed.grammatical (h : r.WellFormed) : r.Grammatical where
  registry := h.registry.domain_or_component
  repository := by
    by_cases bare : r.repository = ""
    · exact .inl bare
    · have some_part : r.path ≠ [] := by
        rw [path, if_neg bare]
        exact Text.split_ne_nil '/' _
      rw [← r.join_path]
      apply Or.inr
      apply Path.intro some_part
      intro part member
      exact isComponent_iff.mp (h.path part member)
  filled := by
    intro default bare
    exact h.elsewhere (by rw [path, if_pos bare]) default
  name := isComponent_iff.mp h.name
  addressed := by
    rw [← not_and_or]
    rintro ⟨untagged, undigested⟩
    exact h.addressed untagged undigested
  tag := by
    intro tag tagged
    exact isTag_iff.mp (h.tag tag tagged)
  digest := by
    intro digest pinned
    exact isDigest_iff.mp (h.digest digest pinned)

/-- A component that cannot be a domain is taken for the registry exactly if it has a dot. Otherwise
it begins the repository, on the default registry. -/
theorem locate_component {first : List Char} {rest : List (List Char)} (component : Component first)
    (confined : ¬ Domain first) :
    locate (first :: rest) =
      if '.' ∈ first then (String.ofList first, String.ofList (Text.join '/' rest))
      else (defaultRegistry, String.ofList (Text.join '/' (first :: rest))) := by
  by_cases dot : '.' ∈ first
  · have host : isRegistryHost first = true := (isRegistryHost_iff component confined).mpr dot
    have elsewhere : String.ofList first ≠ defaultRegistry := by
      intro same
      have default : first = defaultRegistry.toList := by rw [← same, String.toList_ofList]
      exact confined (component.domain_iff.mpr (by rw [default]; decide))
    simp [locate, host, elsewhere, dot]
  · have local_part : isRegistryHost first = false := by
      rw [← Bool.not_eq_true, isRegistryHost_iff component confined]
      exact dot
    have filled : Text.join '/' (first :: rest) ≠ [] := by
      have first_filled := ne_nil_of_isComponent (isComponent_iff.mpr component)
      cases rest with
      | nil => simpa using first_filled
      | cons next rest => simp [Text.join_cons]
    simp [locate, local_part, filled, dot]

/-- Every reference that is read is grammatical. The first of several segments of its name, where it
is a component that cannot be a domain, is taken for the registry exactly if it has a dot. -/
theorem grammatical_of_parse (parsed : parse text = .ok r) :
    r.Grammatical ∧
      ∀ (parts : Parts) (first : List Char) (rest : List (List Char)) (name : List Char),
        parts.Derived → text.toList = parts.text →
        Text.split '/' parts.name = first :: (rest ++ [name]) →
        Component first → ¬ Domain first →
        (r.registry, r.repository) =
          if '.' ∈ first then (String.ofList first, String.ofList (Text.join '/' rest))
          else (defaultRegistry, String.ofList (Text.join '/' (first :: rest))) := by
  refine ⟨(wellFormed_of_parse parsed).grammatical, ?_⟩
  intro parts first rest name derived spelled segments component confined
  obtain ⟨s, named, fits, same, rfl⟩ := exists_spelling (parse_eq_ok.mp parsed)
  obtain ⟨t, named', -, rfl⟩ := Spelling.exists_of_derived derived
  rw [t.text_parts, same] at spelled
  obtain rfl := named.eq_of_text named' spelled
  have path : s.path = first :: rest := by
    have split := named.split_fullName
    rw [Spelling.parts] at segments
    rw [segments, ← List.cons_append] at split
    exact (List.append_inj_left' split rfl).symm
  rw [← locate_component component confined, ← path]
  rfl

/-- What `foo_bar.baz/image:v1` stands for. -/
def dottedImage : Reference :=
  ⟨"foo_bar.baz", "", "image", some "v1", none⟩

theorem parse_dottedImage : parse "foo_bar.baz/image:v1" = .ok dottedImage :=
  parse_eq_ok.mpr (by decide +kernel)

theorem component_dottedImage : Component dottedImage.registry.toList :=
  isComponent_iff.mp (by decide)

theorem not_domain_dottedImage : ¬ Domain dottedImage.registry.toList :=
  fun domain => domain.not_mem (by decide)

theorem grammatical_of_parse_dottedImage :
    dottedImage.Grammatical ∧
      (dottedImage.registry, dottedImage.repository) =
        if '.' ∈ dottedImage.registry.toList then
          (String.ofList dottedImage.registry.toList, String.ofList (Text.join '/' []))
        else (defaultRegistry, String.ofList (Text.join '/' [dottedImage.registry.toList])) := by
  let parts : Parts := ⟨"foo_bar.baz/image".toList, some "v1".toList, none⟩
  have derived : parts.Derived := by
    refine ⟨?_, by decide, ?_, by simp [parts]⟩
    · exact name_iff.mpr ⟨["foo_bar.baz".toList], "image".toList, by decide, rfl⟩
    · intro tag tagged
      obtain rfl := Option.some.inj tagged
      exact isTag_iff.mp (by decide)
  obtain ⟨grammatical, located⟩ := grammatical_of_parse parse_dottedImage
  exact ⟨grammatical, located parts _ [] "image".toList derived rfl rfl component_dottedImage
    not_domain_dottedImage⟩

/-- An underscore keeps the first component from being a domain, and its dot makes it the registry
all the same. -/
theorem registry_of_dotted_component :
    parse "foo_bar.baz/image:v1" = .ok dottedImage ∧
      Component dottedImage.registry.toList ∧ ¬ Domain dottedImage.registry.toList :=
  ⟨parse_dottedImage, component_dottedImage, not_domain_dottedImage⟩

end Parsed

end SignedAdmission.Reference
