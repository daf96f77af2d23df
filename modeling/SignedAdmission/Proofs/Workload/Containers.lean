import SignedAdmission.Proofs.Checks
import SignedAdmission.Proofs.Json.Pointer
import SignedAdmission.Workload.Object

/-! The containers of a workload, and their places in it. Every entry of the container lists is one
container, whose image is read from the text at its place. -/
namespace SignedAdmission

open Checks

namespace ContainerGroup

/-- The place of a group among the lists of a pod spec. -/
def place : ContainerGroup → Nat
  | containers => 0
  | initContainers => 1
  | ephemeralContainers => 2

theorem all_increasing : all.Pairwise fun a b => a.place < b.place := by
  decide

theorem mem_all (group : ContainerGroup) : group ∈ all := by
  cases group <;> decide

theorem text_injective {group other : ContainerGroup} (h : group.text = other.text) :
    group = other := by
  cases group <;> cases other <;> first | rfl | exact absurd h (by decide)

/-- The names of the lists are keys, and never indices. -/
theorem index?_text (group : ContainerGroup) : Json.index? group.text = none := by
  cases group <;> decide

end ContainerGroup

namespace Container

/-- One container comes before another one: in an earlier group, or earlier in the same. -/
def Precedes (a b : Container) : Prop :=
  a.group.place < b.group.place ∨ a.group = b.group ∧ a.index < b.index

/-- The entry that a container is read from. -/
def location (container : Container) : ContainerGroup × Nat :=
  (container.group, container.index)

end Container

namespace Json

/-- A step that is no index leads to a field, if it leads anywhere. -/
theorem child?_eq_field? {step : String} (h : index? step = none) (value : Json) :
    value.child? step = value.field? step := by
  cases value <;> simp [child?, field?, h]

theorem child?_toString (items : List Json) (index : Nat) :
    (Json.array items).child? (toString index) = items[index]? := by
  rw [child?, index?_eq_some.mpr rfl]
  rfl

end Json

namespace Workload

/-- The entries of a list of the pod spec; what is not a list has none. -/
def entries (workload : Workload) (group : ContainerGroup) : List Json :=
  ((workload.spec.at? (workload.kind.podSpecPath ++ [group.text])).bind Json.array?).getD []

/-- The places of all entries, in the order of the lists and of the entries in each. -/
def locations (workload : Workload) : List (ContainerGroup × Nat) :=
  ContainerGroup.all.flatMap fun group =>
    (List.range (workload.entries group).length).map (group, ·)

/-- The way from the spec to the image of an entry. -/
def imagePath (workload : Workload) (location : ContainerGroup × Nat) : List String :=
  workload.kind.podSpecPath ++ [location.1.text, toString location.2, "image"]

/-- The image of an entry as it is written. -/
def imageText? (workload : Workload) (location : ContainerGroup × Nat) : Option String :=
  (workload.spec.at? (workload.imagePath location)).bind Json.string?

variable {workload : Workload} {containers : List Container} {group : ContainerGroup}

section Entries

theorem mem_locations {index : Nat} :
    (group, index) ∈ workload.locations ↔ index < (workload.entries group).length := by
  simp [locations, ContainerGroup.mem_all]

theorem exists_array {index : Nat} {entry : Json}
    (h : (workload.entries group)[index]? = some entry) :
    ∃ items, workload.spec.at? (workload.kind.podSpecPath ++ [group.text]) = some (.array items) ∧
      items[index]? = some entry := by
  rw [entries] at h
  cases found : workload.spec.at? (workload.kind.podSpecPath ++ [group.text]) with
  | none => simp [found] at h
  | some value =>
    cases value with
    | array items => exact ⟨items, rfl, by simpa [found, Json.array?] using h⟩
    | null | bool _ | number _ | string _ | object _ => simp [found, Json.array?] at h

theorem imageText?_eq {index : Nat} {entry : Json}
    (h : (workload.entries group)[index]? = some entry) :
    workload.imageText? (group, index) = (entry.field? "image").bind Json.string? := by
  obtain ⟨items, found, inside⟩ := exists_array h
  have key : Json.index? "image" = none := by decide
  rw [imageText?, imagePath, List.append_cons, Json.at?_append, found, Option.bind_some,
    Json.at?_cons, Json.child?_toString, inside, Option.bind_some, Json.at?_cons,
    Json.child?_eq_field? key]
  cases entry.field? "image" <;> rfl

end Entries

section Listing

variable {podSpec : Json}

theorem containerOf_eq_ok {entry : Json} {index : Nat} {container : Container} :
    containerOf group entry index = .ok container ↔
      container.location = (group, index) ∧
        ∃ text, (entry.field? "image").bind Json.string? = some text ∧
          Reference.parse text = .ok container.image := by
  rw [containerOf]
  split
  case h_1 absent => simp [absent]
  case h_2 text written =>
    simp only [bind_eq_ok, mapError_eq_ok, pure_eq_ok, written, Option.some.injEq,
      exists_eq_left', Container.location, Prod.mk.injEq]
    constructor
    · rintro ⟨image, parsed, rfl⟩
      exact ⟨⟨rfl, rfl⟩, parsed⟩
    · rintro ⟨⟨rfl, rfl⟩, parsed⟩
      exact ⟨_, parsed, rfl⟩

/-- The containers of a list are those of its entries, one by one. -/
theorem groupContainers_eq (found : workload.spec.at? workload.kind.podSpecPath = some podSpec) :
    groupContainers podSpec group =
      (workload.entries group).zipIdx.mapM fun (entry, index) => containerOf group entry index := by
  have whole : (podSpec.field? group.text).bind Json.array? =
      (workload.spec.at? (workload.kind.podSpecPath ++ [group.text])).bind Json.array? := by
    rw [Json.at?_append, found, Option.bind_some, Json.at?_cons,
      Json.child?_eq_field? group.index?_text]
    cases podSpec.field? group.text <;> rfl
  rw [groupContainers, entries, ← whole]
  cases (podSpec.field? group.text).bind Json.array? <;> rfl

theorem groupContainers_eq_ok
    (found : workload.spec.at? workload.kind.podSpecPath = some podSpec)
    (h : groupContainers podSpec group = .ok containers) :
    containers.map Container.location =
        (List.range (workload.entries group).length).map (group, ·) ∧
      ∀ container ∈ containers, ∃ text, workload.imageText? container.location = some text ∧
        Reference.parse text = .ok container.image := by
  rw [groupContainers_eq found, mapM_eq_ok] at h
  constructor
  · have located : List.Forall₂ (· = ·)
        ((workload.entries group).zipIdx.map fun entry => (group, entry.2))
        (containers.map Container.location) := by
      rw [List.forall₂_map_left_iff, List.forall₂_map_right_iff]
      exact h.imp fun _ _ read => (containerOf_eq_ok.mp read).1.symm
    rw [List.forall₂_eq_eq_eq] at located
    rw [← located, List.range_eq_range', ← List.zipIdx_map_snd, List.map_map]
    rfl
  · intro container member
    obtain ⟨⟨entry, index⟩, listed, read⟩ := exists_of_mem_right h container member
    obtain ⟨place, text, written, parsed⟩ := containerOf_eq_ok.mp read
    have inside : (workload.entries group)[index]? = some entry := by
      simpa using List.mem_zipIdx_iff_getElem?.mp listed
    exact ⟨text, by rw [place, imageText?_eq inside, written], parsed⟩

/-- Every entry is listed as one container, in order, with the image that its text stands for. -/
theorem containers_eq_ok (h : workload.containers = .ok containers) :
    containers.map Container.location = workload.locations ∧
      ∀ container ∈ containers, ∃ text, workload.imageText? container.location = some text ∧
        Reference.parse text = .ok container.image := by
  rw [Workload.containers] at h
  split at h
  case h_1 => simp at h
  case h_2 podSpec found =>
    simp only [bind_eq_ok, pure_eq_ok] at h
    obtain ⟨groups, read, rfl⟩ := h
    have read := mapM_eq_ok.mp read
    constructor
    · have located : List.Forall₂ (· = ·)
          (ContainerGroup.all.map fun group =>
            (List.range (workload.entries group).length).map (group, ·))
          (groups.map (·.map Container.location)) := by
        rw [List.forall₂_map_left_iff, List.forall₂_map_right_iff]
        exact read.imp fun _ _ listed => (groupContainers_eq_ok found listed).1.symm
      rw [List.forall₂_eq_eq_eq] at located
      rw [List.map_flatten, ← located, locations, List.flatMap_def]
    · intro container member
      obtain ⟨containers, member, inside⟩ := List.mem_flatten.mp member
      obtain ⟨group, -, listed⟩ := exists_of_mem_right read containers member
      exact (groupContainers_eq_ok found listed).2 container inside

theorem podSpec_of_containers (h : workload.containers = .ok containers) :
    ∃ podSpec, workload.spec.at? workload.kind.podSpecPath = some podSpec := by
  rw [Workload.containers] at h
  split at h
  case h_1 => simp at h
  case h_2 podSpec found => exact ⟨podSpec, found⟩

/-- A pod spec whose entries all name images has its containers listed. -/
theorem exists_containers (found : workload.spec.at? workload.kind.podSpecPath = some podSpec)
    (named : ∀ location ∈ workload.locations, ∃ text image,
      workload.imageText? location = some text ∧ Reference.parse text = .ok image) :
    ∃ containers, workload.containers = .ok containers := by
  have listed : ∀ group ∈ ContainerGroup.all,
      ∃ containers, groupContainers podSpec group = .ok containers := by
    intro group _
    rw [groupContainers_eq found]
    refine exists_mapM_ok fun ⟨entry, index⟩ member => ?_
    have inside : (workload.entries group)[index]? = some entry := by
      simpa using List.mem_zipIdx_iff_getElem?.mp member
    obtain ⟨text, image, written, parsed⟩ :=
      named (group, index) (mem_locations.mpr (List.getElem?_eq_some_iff.mp inside).1)
    rw [imageText?_eq inside] at written
    exact ⟨⟨group, index, image⟩, containerOf_eq_ok.mpr ⟨rfl, text, written, parsed⟩⟩
  obtain ⟨groups, read⟩ := exists_mapM_ok listed
  exact ⟨groups.flatten, by simp [Workload.containers, found, read]⟩

/-- Containers are listed group by group, and by their index in each group. -/
theorem containers_ordered (h : workload.containers = .ok containers) :
    containers.Pairwise Container.Precedes := by
  have ordered : workload.locations.Pairwise fun a b =>
      a.1.place < b.1.place ∨ a.1 = b.1 ∧ a.2 < b.2 := by
    refine List.pairwise_flatMap.mpr ⟨fun group _ => ?_, ?_⟩
    · exact List.pairwise_map.mpr (List.pairwise_lt_range.imp fun lower => .inr ⟨rfl, lower⟩)
    · refine ContainerGroup.all_increasing.imp fun lower => ?_
      simp only [List.mem_map]
      rintro _ ⟨_, -, rfl⟩ _ ⟨_, -, rfl⟩
      exact .inl lower
  rw [← (containers_eq_ok h).1, List.pairwise_map] at ordered
  exact ordered

theorem nodup_locations (h : workload.containers = .ok containers) :
    (containers.map Container.location).Nodup := by
  rw [List.Nodup, List.pairwise_map]
  refine (containers_ordered h).imp fun {a b} before same => ?_
  simp only [Container.location, Prod.mk.injEq] at same
  obtain lower | ⟨-, lower⟩ := before
  · exact absurd (same.1 ▸ lower) (Nat.lt_irrefl _)
  · omega

end Listing

end Workload

end SignedAdmission
