import SignedAdmission.Proofs.Reference.Grammar

/-! The productions of the grammar of references, independent of how a text is read. What reading
tests of each part of a text is exactly that the productions derive it. -/
namespace SignedAdmission.Reference

namespace Grammar

/-- Lowercase letters and digits, at least one. -/
structure Run (cs : List Char) : Prop where
  filled : cs ≠ []
  chars : ∀ c ∈ cs, c.isLower = true ∨ c.isDigit = true

/-- What stands between two runs: a dot, one or two underscores, or any number of hyphens. -/
inductive Separator : List Char → Prop
  | dot : Separator ['.']
  | underscore : Separator ['_']
  | twoUnderscores : Separator ['_', '_']
  | hyphens (count : ℕ) : Separator (List.replicate count '-')

/-- Runs with a separator between any two of them. -/
inductive Component : List Char → Prop
  | run {cs} (run : Run cs) : Component cs
  | append {cs separator run} (before : Component cs) (between : Separator separator)
    (after : Run run) : Component (cs ++ separator ++ run)

/-- Letters and digits, with hyphens among the inner characters. -/
inductive Label : List Char → Prop
  | single {c} (alnum : c.isAlphanum = true) : Label [c]
  | long {first inner last} (starts : first.isAlphanum = true)
    (chars : ∀ c ∈ inner, c.isAlphanum = true ∨ c = '-') (ends : last.isAlphanum = true) :
    Label (first :: (inner ++ [last]))

/-- Labels with dots between them. -/
inductive Host : List Char → Prop
  | intro {labels} (filled : labels ≠ []) (valid : ∀ label ∈ labels, Label label) :
    Host (Text.join '.' labels)

/-- Digits, at least one. -/
structure Port (cs : List Char) : Prop where
  filled : cs ≠ []
  digits : ∀ c ∈ cs, c.isDigit = true

/-- A host, possibly with a port. -/
inductive Domain : List Char → Prop
  | bare {host} (valid : Host host) : Domain host
  | withPort {host port} (valid : Host host) (number : Port port) : Domain (host ++ ':' :: port)

/-- Components with slashes between them. -/
inductive Path : List Char → Prop
  | intro {components} (filled : components ≠ [])
    (valid : ∀ component ∈ components, Component component) : Path (Text.join '/' components)

/-- A path, possibly on a domain. -/
inductive Name : List Char → Prop
  | path {path} (valid : Path path) : Name path
  | located {domain path} (host : Domain domain) (valid : Path path) : Name (domain ++ '/' :: path)

/-- A word character and up to 127 more of them, or dots, or hyphens. -/
inductive Tag : List Char → Prop
  | intro {first rest} (starts : Text.isWord first = true)
    (chars : ∀ c ∈ rest, Text.isWord c = true ∨ c = '.' ∨ c = '-') (short : rest.length ≤ 127) :
    Tag (first :: rest)

/-- The digits of a SHA-256 digest. -/
structure Digest (cs : List Char) : Prop where
  count : cs.length = 64
  digits : ∀ c ∈ cs, c.isDigit = true ∨ 'a' ≤ c ∧ c ≤ 'f'

end Grammar

open Grammar

variable {cs : List Char}

section Components

variable {run separator : List Char}

theorem isLowerAlnum_iff {c : Char} :
    isLowerAlnum c = true ↔ c.isLower = true ∨ c.isDigit = true := by
  rw [isLowerAlnum, Bool.or_eq_true]

/-- What has been read of a component when it stands so. -/
inductive Reached : Progress → List Char → Prop
  | start : Reached .start []
  | run {before} (h : Component before) : Reached .run before
  | dot {before} (h : Component before) : Reached .dot (before ++ ['.'])
  | underscore {before} (h : Component before) : Reached .underscore (before ++ ['_'])
  | twoUnderscores {before} (h : Component before) : Reached .twoUnderscores (before ++ ['_', '_'])
  | hyphens {before} (h : Component before) (count : ℕ) :
    Reached .hyphens (before ++ List.replicate (count + 1) '-')

theorem Reached.lower {progress : Progress} {c : Char} (h : Reached progress cs)
    (lower : isLowerAlnum c = true) : Component (cs ++ [c]) := by
  have one : Run [c] := by
    refine ⟨List.cons_ne_nil c [], ?_⟩
    intro d member
    rw [List.mem_singleton.mp member]
    exact isLowerAlnum_iff.mp lower
  cases h with
  | start => exact .run one
  -- One more character of the last run is a run of its own after no hyphen at all.
  | run h => simpa using h.append (.hyphens 0) one
  | dot h => exact h.append .dot one
  | underscore h => exact h.append .underscore one
  | twoUnderscores h => exact h.append .twoUnderscores one
  | hyphens h count => exact h.append (.hyphens (count + 1)) one

/-- What one more character does. -/
theorem Reached.next {progress after : Progress} {c : Char} (h : Reached progress cs)
    (next : progress.next? c = some after) : Reached after (cs ++ [c]) := by
  unfold Progress.next? at next
  split at next
  case isTrue lower =>
    obtain rfl := Option.some.inj next
    exact .run (h.lower lower)
  case isFalse =>
    split at next
    case h_1 =>
      obtain rfl := Option.some.inj next
      cases h with
      | run h => exact .dot h
    case h_2 =>
      obtain rfl := Option.some.inj next
      cases h with
      | run h => exact .underscore h
    case h_3 =>
      obtain rfl := Option.some.inj next
      cases h with
      | underscore h => simpa using Reached.twoUnderscores h
    case h_4 =>
      obtain rfl := Option.some.inj next
      cases h with
      | run h => exact .hyphens h 0
    case h_5 =>
      obtain rfl := Option.some.inj next
      cases h with
      | hyphens h count =>
        rw [List.append_assoc, ← List.replicate_succ']
        exact .hyphens h (count + 1)
    case h_6 => simp at next

/-- What a run of characters does. -/
theorem Reached.foldlM {progress after : Progress} {before : List Char}
    (h : Reached progress before) (read : cs.foldlM Progress.next? progress = some after) :
    Reached after (before ++ cs) := by
  induction cs generalizing progress before with
  | nil =>
    obtain rfl := Option.some.inj read
    simpa using h
  | cons c cs ih =>
    rw [List.foldlM_cons] at read
    obtain ⟨middle, first, rest⟩ := Option.bind_eq_some_iff.mp read
    simpa using ih (h.next first) rest

/-- A run ends any component that is not finished. -/
theorem foldlM_run {progress : Progress} (h : Run cs) :
    cs.foldlM Progress.next? progress = some .run := by
  obtain ⟨filled, chars⟩ := h
  have next {progress : Progress} {c : Char} (lower : c.isLower = true ∨ c.isDigit = true) :
      progress.next? c = some .run := by
    simp [Progress.next?, isLowerAlnum_iff.mpr lower]
  induction cs generalizing progress with
  | nil => contradiction
  | cons c cs ih =>
    rw [List.forall_mem_cons] at chars
    rw [List.foldlM_cons, next chars.1]
    cases cs with
    | nil => rfl
    | cons d cs => exact ih (List.cons_ne_nil d cs) chars.2

theorem foldlM_hyphens (count : ℕ) :
    (List.replicate count '-').foldlM Progress.next? .hyphens = some .hyphens := by
  induction count with
  | zero => rfl
  | succ count ih =>
    rw [List.replicate_succ, List.foldlM_cons]
    exact ih

theorem exists_foldlM_separator (h : Separator separator) :
    ∃ after, separator.foldlM Progress.next? .run = some after := by
  cases h with
  | dot => exact ⟨.dot, rfl⟩
  | underscore => exact ⟨.underscore, rfl⟩
  | twoUnderscores => exact ⟨.twoUnderscores, rfl⟩
  | hyphens count =>
    cases count with
    | zero => exact ⟨.run, rfl⟩
    | succ count => exact ⟨.hyphens, foldlM_hyphens count⟩

theorem isComponent_iff : isComponent cs = true ↔ Component cs := by
  rw [isComponent, beq_iff_eq]
  constructor
  · intro read
    have reached : Reached .run ([] ++ cs) := Reached.start.foldlM read
    rw [List.nil_append] at reached
    cases reached with
    | run h => exact h
  · intro h
    induction h with
    | run run => exact foldlM_run run
    | append before between after ih =>
      obtain ⟨middle, read⟩ := exists_foldlM_separator between
      simp only [List.foldlM_append, ih, Option.bind_eq_bind, Option.bind_some, read,
        foldlM_run after]

end Components

section Domains

theorem isLabel_iff : isLabel cs = true ↔ Label cs := by
  simp only [isLabel, Bool.and_eq_true, List.all_eq_true, Bool.or_eq_true, beq_iff_eq]
  constructor
  · rintro ⟨⟨chars, starts⟩, ends⟩
    cases cs with
    | nil => simp at starts
    | cons first cs =>
      rcases List.eq_nil_or_concat' cs with rfl | ⟨inner, last, rfl⟩
      · exact .single (by simpa using starts)
      · rw [List.forall_mem_cons, List.forall_mem_append] at chars
        rw [← List.cons_append, List.getLast?_concat] at ends
        exact .long (by simpa using starts) chars.2.1 (by simpa using ends)
  · intro h
    cases h with
    | single alnum => simp [alnum]
    | long starts chars ends =>
      refine ⟨⟨?_, by simpa using starts⟩, ?_⟩
      · rw [List.forall_mem_cons, List.forall_mem_append, List.forall_mem_singleton]
        exact ⟨.inl starts, chars, .inl ends⟩
      · rw [← List.cons_append, List.getLast?_concat]
        simpa using ends

theorem Grammar.Label.not_mem {c : Char} (h : Label cs) (separator : c = '.' ∨ c = ':' ∨ c = '_') :
    c ∉ cs := by
  have label := isLabel_iff.mpr h
  simp only [isLabel, Bool.and_eq_true, List.all_eq_true, Bool.or_eq_true, beq_iff_eq] at label
  intro member
  have allowed := label.1.1 c member
  rcases separator with rfl | rfl | rfl <;> simp [Char.isAlphanum] at allowed

theorem Grammar.Host.not_mem {c : Char} (h : Host cs) (separator : c = ':' ∨ c = '_') : c ∉ cs := by
  obtain ⟨-, valid⟩ := h
  intro member
  rcases Text.mem_join member with dot | ⟨label, labels, inside⟩
  · rcases separator with rfl | rfl <;> contradiction
  · exact (valid label labels).not_mem (.inr separator) inside

theorem all_isLabel_iff : (Text.split '.' cs).all isLabel = true ↔ Host cs := by
  rw [List.all_eq_true]
  constructor
  · intro labels
    rw [← Text.join_split '.' cs]
    apply Host.intro (Text.split_ne_nil '.' cs)
    intro label member
    exact isLabel_iff.mp (labels label member)
  · rintro ⟨filled, valid⟩
    rw [Text.split_join filled fun label member => (valid label member).not_mem (.inl rfl)]
    intro label member
    exact isLabel_iff.mpr (valid label member)

theorem isPort_iff : isPort cs = true ↔ Port cs := by
  simp only [isPort, Bool.and_eq_true, Bool.not_eq_true', List.isEmpty_eq_false_iff,
    List.all_eq_true]
  exact ⟨fun h => ⟨h.1, h.2⟩, fun h => ⟨h.filled, h.digits⟩⟩

theorem isDomain_iff : isDomain cs = true ↔ Domain cs := by
  constructor
  · intro domain
    rcases Text.cut_cases ':' cs with ⟨-, whole⟩ | ⟨host, port, rfl, -, parts⟩
    · rw [isDomain, whole] at domain
      exact .bare (all_isLabel_iff.mp (by simpa using domain))
    · rw [isDomain, parts] at domain
      simp only [Option.all_some, Bool.and_eq_true] at domain
      exact .withPort (all_isLabel_iff.mp domain.1) (isPort_iff.mp domain.2)
  · intro h
    cases h with
    | bare valid =>
      rw [isDomain, Text.cut_of_not_mem (valid.not_mem (.inl rfl))]
      simpa using all_isLabel_iff.mpr valid
    | withPort valid number =>
      rw [isDomain, Text.cut_append (valid.not_mem (.inl rfl))]
      simp [all_isLabel_iff.mpr valid, isPort_iff.mpr number]

end Domains

section Names

variable {first name : List Char} {rest : List (List Char)}

theorem isName_nil : isName [] name = true ↔ Component name := by
  simp [isName, isComponent_iff]

/-- Only the first segment of a name may be a domain. -/
theorem isName_cons :
    isName (first :: rest) name = true ↔
      (Component first ∨ Domain first) ∧ ∀ component ∈ rest ++ [name], Component component := by
  simp only [isName, Bool.and_eq_true, Bool.or_eq_true, List.all_eq_true, isComponent_iff,
    isDomain_iff, List.forall_mem_append, List.forall_mem_singleton]
  tauto

/-- The segments of a name are the components of a path, with at most a domain in front. -/
theorem name_iff :
    Name cs ↔ ∃ path name, isName path name = true ∧ cs = Text.join '/' (path ++ [name]) := by
  constructor
  · intro h
    cases h with
    | path valid =>
      obtain ⟨filled, valid⟩ := valid
      obtain ⟨path, name, rfl⟩ := (List.eq_nil_or_concat' _).resolve_left filled
      refine ⟨path, name, ?_, rfl⟩
      cases path with
      | nil => exact isName_nil.mpr (valid name List.mem_cons_self)
      | cons first rest =>
        rw [List.cons_append, List.forall_mem_cons] at valid
        exact isName_cons.mpr ⟨.inl valid.1, valid.2⟩
    | @located domain _ host valid =>
      obtain ⟨filled, valid⟩ := valid
      obtain ⟨path, name, rfl⟩ := (List.eq_nil_or_concat' _).resolve_left filled
      refine ⟨domain :: path, name, isName_cons.mpr ⟨.inr host, valid⟩, ?_⟩
      rw [List.cons_append, Text.join_cons filled]
  · rintro ⟨path, name, valid, rfl⟩
    cases path with
    | nil =>
      apply Name.path
      apply Path.intro (by simp)
      simpa using isName_nil.mp valid
    | cons first rest =>
      obtain ⟨component | domain, others⟩ := isName_cons.mp valid
      · apply Name.path
        apply Path.intro (by simp)
        rw [List.cons_append, List.forall_mem_cons]
        exact ⟨component, others⟩
      · rw [List.cons_append, Text.join_cons (by simp)]
        exact .located domain (.intro (by simp) others)

end Names

section Addresses

theorem isTag_iff : isTag cs = true ↔ Tag cs := by
  simp only [isTag, Bool.and_eq_true, List.all_eq_true, Bool.or_eq_true, beq_iff_eq,
    decide_eq_true_eq]
  constructor
  · rintro ⟨⟨starts, chars⟩, short⟩
    cases cs with
    | nil => simp at starts
    | cons first rest =>
      rw [List.forall_mem_cons] at chars
      apply Tag.intro
      · simpa using starts
      · intro c member
        exact or_assoc.mp (chars.2 c member)
      · rw [List.length_cons, maxTagLength] at short
        omega
  · rintro ⟨starts, chars, short⟩
    refine ⟨⟨by simpa using starts, ?_⟩, ?_⟩
    · rw [List.forall_mem_cons]
      refine ⟨.inl (.inl starts), ?_⟩
      intro c member
      exact or_assoc.mpr (chars c member)
    · rw [List.length_cons, maxTagLength]
      omega

theorem isDigest_iff : isDigest cs = true ↔ Digest cs := by
  simp only [isDigest, Bool.and_eq_true, beq_iff_eq, List.all_eq_true, Bool.or_eq_true,
    decide_eq_true_eq, digestLength]
  exact ⟨fun h => ⟨h.1, h.2⟩, fun h => ⟨h.count, h.digits⟩⟩

end Addresses

end SignedAdmission.Reference
