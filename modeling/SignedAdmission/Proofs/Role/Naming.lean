import SignedAdmission.Proofs.Checks
import SignedAdmission.Proofs.Text.Split
import SignedAdmission.Validator.Notary

/-! The names of roles. A role is read from its own name and from no other text. A delegation may
also be asked for without `targets/` in front, and what is read then is a delegation, too, even if
its name is that of a base role. -/
namespace SignedAdmission

namespace Role

section Text

theorem slash_mem_text {role : Role} :
    '/' ∈ role.text.toList ↔ ∃ name, role = .delegation name := by
  cases role with
  | delegation name => simp [text, delegationStart]
  | root | snapshot | timestamp | targets => simp [text]

theorem text_injective : Function.Injective text := by
  intro a b same
  by_cases slash : '/' ∈ a.text.toList
  · have slash' : '/' ∈ b.text.toList := same ▸ slash
    obtain ⟨name, rfl⟩ := slash_mem_text.mp slash
    obtain ⟨name', rfl⟩ := slash_mem_text.mp slash'
    simpa [text] using same
  · have slash' : '/' ∉ b.text.toList := same ▸ slash
    rw [slash_mem_text] at slash slash'
    cases a <;> cases b <;> simp_all [text]

theorem text_delegation_toList (name : String) :
    (delegation name).text.toList = delegationStart.toList ++ name.toList :=
  String.toList_append

/-- The slash keeps the name of a delegation apart from those of the base roles. -/
theorem text_delegation_ne {name other : String} (flat : '/' ∉ other.toList) :
    (delegation name).text ≠ other := by
  rintro rfl
  exact flat (slash_mem_text.mpr ⟨name, rfl⟩)

end Text

section Names

/-- What stands behind `targets/` in the name of a delegation: a single segment without white
space. -/
structure DelegationName (name : List Char) : Prop where
  filled : name ≠ []
  chars : ∀ c ∈ name, c ≠ '/' ∧ Text.isSpace c = false

theorem isDelegationName_iff {name : List Char} :
    isDelegationName name = true ↔ DelegationName name := by
  have chars : (name.all fun c => c != '/' && !Text.isSpace c) = true ↔
      ∀ c ∈ name, c ≠ '/' ∧ Text.isSpace c = false := by
    simp
  have filled : (!name.isEmpty) = true ↔ name ≠ [] := by
    simp
  rw [isDelegationName, Bool.and_eq_true, filled, chars]
  exact ⟨fun ⟨filled, chars⟩ => ⟨filled, chars⟩, fun h => ⟨h.filled, h.chars⟩⟩

instance : DecidablePred DelegationName :=
  fun _ => decidable_of_iff _ isDelegationName_iff

/-- Only delegations can be named amiss. -/
def WellNamed : Role → Prop
  | root | snapshot | timestamp | targets => True
  | delegation name => DelegationName name.toList

end Names

section Reading

variable {text : String} {role : Role}

theorem ofText?_text (named : role.WellNamed) : ofText? role.text = some role := by
  cases role with
  | root | snapshot | timestamp | targets => rfl
  | delegation name =>
    have dropped : Text.dropStart? delegationStart.toList (delegation name).text.toList =
        some name.toList :=
      Text.dropStart?_eq_some.mpr (text_delegation_toList name)
    rw [ofText?, if_neg (text_delegation_ne (by decide)),
      if_neg (text_delegation_ne (by decide)),
      if_neg (text_delegation_ne (by decide)),
      if_neg (text_delegation_ne (by decide)), dropped]
    simp only [isDelegationName_iff.mpr named, if_true, String.ofList_toList]

theorem text_of_ofText? (read : ofText? text = some role) : role.text = text ∧ role.WellNamed := by
  revert read
  -- The first four cases are the base roles; the fifth has a proper name behind `targets/`.
  fun_cases ofText? text with
  | case1 same | case2 _ same | case3 _ _ same | case4 _ _ _ same =>
    intro read
    obtain rfl := Option.some.inj read
    exact ⟨same.symm, trivial⟩
  | case5 _ _ _ _ name dropped proper =>
    intro read
    obtain rfl := Option.some.inj read
    constructor
    · apply String.toList_injective
      rw [text_delegation_toList, String.toList_ofList, Text.dropStart?_eq_some.mp dropped]
    · rw [WellNamed, String.toList_ofList]
      exact isDelegationName_iff.mp proper
  | case6 | case7 =>
    intro read
    contradiction

/-- A role is read from its own name. -/
theorem parse_eq_ok : parse text = .ok role ↔ role.text = text ∧ role.WellNamed := by
  have found : parse text = .ok role ↔ ofText? text = some role := by
    rw [parse]
    cases ofText? text <;> simp
  rw [found]
  constructor
  · exact text_of_ofText?
  · rintro ⟨rfl, named⟩
    exact ofText?_text named

theorem parse_eq_error (unread : ∀ role, parse text ≠ .ok role) :
    parse text = .error (.format (.role text)) := by
  cases read : ofText? text with
  | none => rw [parse, read]
  | some role => exact absurd (by rw [parse, read]) (unread role)

end Reading

section Delegations

variable {text : String} {role : Role}

/-- A name with `targets/` in front, which is written there if it is absent. -/
def withStart (text : String) : String :=
  if delegationStart.toList <+: text.toList then text else delegationStart ++ text

/-- A name without `targets/` in front, which is taken off once if it is there. -/
def withoutStart (text : String) : List Char :=
  if delegationStart.toList <+: text.toList then text.toList.drop delegationStart.toList.length
  else text.toList

theorem withStart_toList (text : String) :
    (withStart text).toList = delegationStart.toList ++ withoutStart text := by
  rw [withStart, withoutStart]
  split
  case isTrue starts => exact (List.prefix_iff_eq_append.mp starts).symm
  case isFalse => exact String.toList_append

theorem withStart_text (name : String) :
    withStart (delegation name).text = (delegation name).text := by
  rw [withStart, text_delegation_toList, if_pos (List.prefix_append ..)]

theorem parseDelegation_eq (text : String) : parseDelegation text = parse (withStart text) := by
  rw [parseDelegation, withStart]
  simp only [List.isPrefixOf_iff_prefix]
  split <;> rfl

/-- The name of a delegation that is asked for is what stands behind `targets/`, and it is read if
it is well-formed. -/
theorem parseDelegation_eq_ok :
    parseDelegation text = .ok role ↔
      DelegationName (withoutStart text) ∧ role = .delegation (String.ofList (withoutStart text)) := by
  rw [parseDelegation_eq, parse_eq_ok]
  constructor
  · rintro ⟨same, named⟩
    have slash : '/' ∈ role.text.toList := by
      rw [same, withStart_toList]
      exact List.mem_append_left _ (by decide)
    obtain ⟨name, rfl⟩ := slash_mem_text.mp slash
    have texts := congrArg String.toList same
    rw [text_delegation_toList, withStart_toList] at texts
    have name_eq : name.toList = withoutStart text := List.append_cancel_left texts
    exact ⟨name_eq ▸ named, by rw [← name_eq, String.ofList_toList]⟩
  · rintro ⟨named, rfl⟩
    constructor
    · apply String.toList_injective
      rw [text_delegation_toList, String.toList_ofList, withStart_toList]
    · rw [WellNamed, String.toList_ofList]
      exact named

/-- A name that is refused is reported with `targets/` in front. -/
theorem parseDelegation_eq_error (improper : ¬ DelegationName (withoutStart text)) :
    parseDelegation text = .error (.format (.role (withStart text))) := by
  rw [parseDelegation_eq]
  apply parse_eq_error
  intro role read
  rw [← parseDelegation_eq, parseDelegation_eq_ok] at read
  exact improper read.1

section Read

variable (read : parseDelegation text = .ok role)

include read

theorem text_of_parseDelegation : role.text = withStart text := by
  rw [parseDelegation_eq, parse_eq_ok] at read
  exact read.1

theorem parse_text_of_parseDelegation : parse role.text = .ok role := by
  rw [text_of_parseDelegation read, ← parseDelegation_eq]
  exact read

theorem parseDelegation_text : parseDelegation role.text = .ok role := by
  obtain ⟨-, rfl⟩ := parseDelegation_eq_ok.mp read
  rw [parseDelegation_eq, withStart_text]
  exact parse_text_of_parseDelegation read

theorem eq_iff_withStart_eq {other : String} {role' : Role}
    (read' : parseDelegation other = .ok role') :
    role' = role ↔ withStart other = withStart text := by
  rw [← text_of_parseDelegation read, ← text_of_parseDelegation read', text_injective.eq_iff]

end Read

/-- Where a delegation is asked for, nothing but a delegation is read, and it is one for exactly
those names that are proper behind `targets/`. Its full name is read back as the same delegation,
and two names are read alike if they only differ in whether `targets/` is written. Whatever is read
as a role is the role's own name. -/
theorem delegation_names_normalised (text : String) :
    ((∃ role, parseDelegation text = .ok role) ↔ DelegationName (withoutStart text)) ∧
      (∀ role, parseDelegation text = .ok role →
        (∃ name, role = .delegation name ∧ role.text = "targets/" ++ name ∧
          DelegationName name.toList) ∧
        parseDelegation role.text = .ok role ∧ parse role.text = .ok role ∧
        ∀ other role', parseDelegation other = .ok role' →
          (role' = role ↔ withStart other = withStart text)) ∧
      ∀ role, parse text = .ok role ↔ role.text = text ∧ role.WellNamed := by
  refine ⟨?_, ?_, fun role => parse_eq_ok⟩
  · constructor
    · rintro ⟨role, read⟩
      exact (parseDelegation_eq_ok.mp read).1
    · intro proper
      exact ⟨_, parseDelegation_eq_ok.mpr ⟨proper, rfl⟩⟩
  · intro role read
    refine ⟨?_, parseDelegation_text read, parse_text_of_parseDelegation read, ?_⟩
    · obtain ⟨proper, rfl⟩ := parseDelegation_eq_ok.mp read
      exact ⟨_, rfl, rfl, by rwa [String.toList_ofList]⟩
    · intro other role' read'
      exact eq_iff_withStart_eq read read'

theorem delegation_names_normalised_of_samples :
    parseDelegation "root" = .ok (.delegation "root") ∧
      parseDelegation "targets/root" = .ok (.delegation "root") ∧
      parse "targets/root" = .ok (.delegation "root") ∧ parse "root" = .ok .root ∧
      withStart "targets/root" = withStart "root" ∧
      ∀ role, parseDelegation "root/" ≠ .ok role := by
  have short : parseDelegation "root" = .ok (.delegation "root") :=
    parseDelegation_eq_ok.mpr ⟨by decide, rfl⟩
  obtain ⟨-, delegated, base⟩ := delegation_names_normalised "root"
  obtain ⟨-, again, full, alike⟩ := delegated _ short
  obtain ⟨proper, -, -⟩ := delegation_names_normalised "root/"
  refine ⟨short, again, full, (base .root).mpr ⟨rfl, trivial⟩, (alike _ _ again).mp rfl, ?_⟩
  intro role read
  exact absurd (proper.mp ⟨role, read⟩) (by decide)

/-- A list of names is read if each of them is proper. -/
theorem mapM_parseDelegation_eq_ok {names : List String} {roles : List Role} :
    names.mapM parseDelegation = .ok roles ↔
      (∀ text ∈ names, DelegationName (withoutStart text)) ∧
        roles = names.map fun text => .delegation (String.ofList (withoutStart text)) := by
  simp only [Checks.mapM_eq_ok, parseDelegation_eq_ok]
  have taken : List.Forall₂
      (fun text role => role = delegation (String.ofList (withoutStart text))) names roles ↔
      roles = names.map fun text => delegation (String.ofList (withoutStart text)) := by
    rw [← List.forall₂_eq_eq_eq, List.forall₂_map_right_iff]
    exact ⟨.flip, .flip⟩
  rw [List.forall₂_and_left, taken]

end Delegations

end Role

namespace Notary

open Checks

/-- The delegations that a rule requires are those that it names, in its order. No rule requires a
base role. -/
theorem required_of_anchor {notary : Notary} {arguments : Json.Fields} {root : TrustRoot}
    {required : List Role} (anchored : notary.anchor arguments = .ok (root, required)) :
    ∃ known, NotaryArguments.decode (.object arguments) = .ok known ∧
      (∀ text ∈ known.delegations, Role.DelegationName (Role.withoutStart text)) ∧
      required = known.delegations.map fun text =>
        .delegation (String.ofList (Role.withoutStart text)) := by
  simp only [anchor, bind_eq_ok, mapError_eq_ok] at anchored
  obtain ⟨known, decoded, text, -, key, -, rest⟩ := anchored
  split at rest
  case isTrue => simp at rest
  case isFalse =>
    simp only [bind_eq_ok, pure_eq_ok, Prod.mk.injEq] at rest
    obtain ⟨roles, read, -, rfl⟩ := rest
    exact ⟨known, decoded, Role.mapM_parseDelegation_eq_ok.mp read⟩

end Notary

end SignedAdmission
