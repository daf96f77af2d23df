import SignedAdmission.Key.Pem
import SignedAdmission.Proofs.Bytes.RoundTrip
import SignedAdmission.Proofs.Text.Split
import SignedAdmission.Proofs.Text.Trim

/-! Textual documents of keys as they are written, in lines of full width, are read back, and under
no other label. -/
namespace SignedAdmission.Pem

variable {cs rest label text : List Char} {fuel : Nat} {bytes : List UInt8}

/-- A text in lines of the full width, without a line end after the last one. -/
def inLines (cs : List Char) : List Char :=
  if cs.length ≤ lineWidth then cs
  else cs.take lineWidth ++ '\n' :: inLines (cs.drop lineWidth)
termination_by cs.length
decreasing_by
  rw [List.length_drop]
  exact Nat.sub_lt (by omega) (by decide)

/-- A document with a label around a text in lines. -/
def document (label text : List Char) : List Char :=
  beginBoundary ++ (label ++ dashes ++ '\n' :: (inLines text ++ '\n' ::
    (endBoundary ++ label ++ dashes)))

section Lines

/-- Text that is no more than one line. -/
structure Unbroken (cs : List Char) : Prop where
  newline : '\n' ∉ cs
  carriage : '\r' ∉ cs

theorem Unbroken.of_subset (h : Unbroken cs) (part : rest ⊆ cs) : Unbroken rest :=
  ⟨fun member => h.newline (part member), fun member => h.carriage (part member)⟩

theorem dropLastEol?_of_last (last : ∀ c ∈ cs.getLast?, c ≠ '\n' ∧ c ≠ '\r') :
    dropLastEol? cs = none := by
  rw [List.getLast?_eq_head?_reverse] at last
  unfold dropLastEol?
  split
  case h_1 same =>
    rw [same] at last
    exact absurd rfl (last '\n' rfl).1
  case h_2 same =>
    rw [same] at last
    exact absurd rfl (last '\n' rfl).1
  case h_3 same =>
    rw [same] at last
    exact absurd rfl (last '\r' rfl).2
  case h_4 => rfl

theorem Unbroken.dropLastEol? (h : Unbroken cs) : dropLastEol? cs = none := by
  apply dropLastEol?_of_last
  intro c last
  have member := List.mem_of_getLast? last
  exact ⟨fun same => h.newline (same ▸ member), fun same => h.carriage (same ▸ member)⟩

theorem dropLastEol?_concat (last : ∀ c ∈ cs.getLast?, c ≠ '\r') :
    Pem.dropLastEol? (cs ++ ['\n']) = some cs := by
  rw [List.getLast?_eq_head?_reverse] at last
  unfold Pem.dropLastEol?
  rw [List.reverse_append, List.reverse_singleton, List.singleton_append]
  split
  case h_1 rest same =>
    rw [(List.cons.inj same).2] at last
    exact absurd rfl (last '\r' rfl)
  case h_2 rest other same =>
    rw [← (List.cons.inj same).2, List.reverse_reverse]
  case h_3 same => simp at same
  case h_4 other _ => exact absurd rfl (other _)

theorem inLines_of_le (short : cs.length ≤ lineWidth) : inLines cs = cs := by
  rw [inLines, if_pos short]

theorem inLines_of_lt (long : lineWidth < cs.length) :
    inLines cs = cs.take lineWidth ++ '\n' :: inLines (cs.drop lineWidth) := by
  rw [inLines, if_neg (Nat.not_le.mpr long)]

/-- Lines are joined to the text that they were made of. -/
theorem joinLines?_inLines (unbroken : Unbroken cs) (enough : (inLines cs).length < fuel) :
    joinLines? fuel (inLines cs) = some cs := by
  induction fuel generalizing cs with
  | zero => contradiction
  | succ fuel ih =>
    by_cases long : lineWidth < cs.length
    · rw [inLines_of_lt long, List.length_append, List.length_cons] at enough
      have full : (cs.take lineWidth).length = lineWidth :=
        List.length_take_of_le (Nat.le_of_lt long)
      have later := ih (unbroken.of_subset (List.drop_subset lineWidth cs)) (by omega)
      rw [inLines_of_lt long, joinLines?, List.drop_left' full, List.take_left' full]
      simp [dropEol?, later]
    · have short := Nat.not_lt.mp long
      rw [inLines_of_le short, joinLines?, List.drop_eq_nil_of_le short]
      simp [unbroken.dropLastEol?]

theorem mem_inLines {c : Char} (h : c ∈ inLines cs) : c = '\n' ∨ c ∈ cs := by
  induction cs using inLines.induct with
  | case1 cs short =>
    rw [inLines_of_le short] at h
    exact .inr h
  | case2 cs long ih =>
    rw [inLines_of_lt (Nat.not_le.mp long), List.mem_append, List.mem_cons] at h
    rcases h with first | newline | later
    · exact .inr (List.mem_of_mem_take first)
    · exact .inl newline
    · exact (ih later).imp_right List.mem_of_mem_drop

theorem inLines_ne_nil (filled : cs ≠ []) : inLines cs ≠ [] := by
  rw [inLines]
  split
  · exact filled
  · simp

end Lines

section Documents

theorem dropEnd?_append (cs tail : List Char) : dropEnd? tail (cs ++ tail) = some cs := by
  have reversed : Text.dropStart? tail.reverse (tail.reverse ++ cs.reverse) = some cs.reverse :=
    Text.dropStart?_eq_some.mpr rfl
  rw [dropEnd?, List.reverse_append, reversed, Option.map_some, List.reverse_reverse]

theorem getLast?_append_dashes (cs : List Char) : (cs ++ dashes).getLast? = some '-' := by
  rw [List.getLast?_append]
  rfl

theorem dropLastEol?_append_dashes (cs : List Char) : dropLastEol? (cs ++ dashes) = none := by
  apply dropLastEol?_of_last
  rw [getLast?_append_dashes]
  rintro c ⟨⟩
  decide

theorem afterBegin?_append (rest : List Char) :
    afterBegin? (beginBoundary ++ rest) = some rest := by
  rw [afterBegin?, Text.dropStart?_eq_some.mpr rfl, Option.some_or]

theorem body?_document (unbroken : Unbroken text) :
    body? label (document label text) = some (inLines text) := by
  have labelled (rest : List Char) :
      Text.dropStart? (label ++ dashes) (label ++ dashes ++ rest) = some rest :=
    Text.dropStart?_eq_some.mpr rfl
  have split : inLines text ++ '\n' :: (endBoundary ++ label ++ dashes) =
      inLines text ++ ['\n'] ++ (endBoundary ++ label ++ dashes) := by simp
  have ended :
      dropLastEol? (inLines text ++ ['\n'] ++ (endBoundary ++ label ++ dashes)) = none := by
    rw [← List.append_assoc]
    exact dropLastEol?_append_dashes _
  have last : ∀ c ∈ (inLines text).getLast?, c ≠ '\r' := by
    rintro c last rfl
    rcases mem_inLines (List.mem_of_getLast? last) with newline | member
    · contradiction
    · exact unbroken.carriage member
  rw [body?, document, afterBegin?_append, split]
  simp only [Option.bind_eq_bind, Option.bind_some, labelled, dropEol?, ended, Option.getD_none]
  rw [dropEnd?_append, Option.bind_some, dropLastEol?_concat last]

theorem unbroken_encode (bytes : List UInt8) : Unbroken (Base64.encode bytes) := by
  have chars : ∀ c ∈ Base64.encode bytes, c ≠ '\n' ∧ c ≠ '\r' :=
    Base64.forall_mem_encode (by decide) (by decide) bytes
  exact ⟨fun member => (chars _ member).1 rfl, fun member => (chars _ member).2 rfl⟩

/-- A document that holds the text of some bytes is read as those bytes. -/
theorem decode?_document (label : String) (some_bytes : bytes ≠ []) :
    decode? label (document label.toList (Base64.encode bytes)) = some bytes := by
  have filled : Base64.encode bytes ≠ [] := by
    intro empty
    have read := Base64.decode?_encode bytes
    rw [empty] at read
    exact some_bytes (Option.some.inj read).symm
  have unbroken := unbroken_encode bytes
  have some_line : (!(inLines (Base64.encode bytes)).isEmpty) = true := by
    simpa using inLines_ne_nil filled
  rw [decode?, body?_document unbroken]
  simp only [Option.bind_eq_bind, Option.bind_some, (Option.guard_eq_some' ()).2 some_line,
    joinLines?_inLines unbroken (Nat.lt_succ_self _), Base64.decode?_encode]

/-- A document begins and ends with a dash. -/
theorem trim_document (label text : List Char) :
    Text.trim (document label text) = document label text := by
  apply Text.trim_of_solid
  · rintro c first
    obtain rfl : '-' = c := Option.some.inj first
    decide
  · intro c last
    have ended : document label text =
        beginBoundary ++ (label ++ dashes ++ '\n' :: (inLines text ++ '\n' ::
          (endBoundary ++ label))) ++ dashes := by simp [document]
    rw [ended, getLast?_append_dashes] at last
    obtain rfl : '-' = c := Option.some.inj last
    decide

end Documents

section Labels

variable {wanted carried : String}

/-- A text whose first boundary is at its very beginning and carries a label. -/
def Labelled (label : String) (cs : List Char) : Prop :=
  beginBoundary ++ (label.toList ++ dashes) <+: cs

theorem labelled_document (label : String) (text : List Char) :
    Labelled label (document label.toList text) := by
  rw [Labelled, document, ← List.append_assoc, ← List.append_assoc]
  exact List.prefix_append _ _

theorem Labelled.begins (labelled : Labelled carried cs) : beginBoundary <+: cs :=
  (List.prefix_append _ _).trans labelled

/-- Labels are told apart where neither of them, with the dashes behind it, begins the other. -/
structure Apart (wanted carried : String) : Prop where
  shorter : ¬ wanted.toList ++ dashes <+: carried.toList ++ dashes
  longer : ¬ carried.toList ++ dashes <+: wanted.toList ++ dashes

theorem Labelled.decode?_other (labelled : Labelled carried cs) (apart : Apart wanted carried) :
    decode? wanted cs = none := by
  obtain ⟨after, rfl⟩ := labelled
  have refused :
      Text.dropStart? (wanted.toList ++ dashes) (carried.toList ++ dashes ++ after) = none := by
    rw [Option.eq_none_iff_forall_ne_some]
    intro rest found
    have begins : wanted.toList ++ dashes <+: carried.toList ++ dashes ++ after :=
      ⟨rest, (Text.dropStart?_eq_some.mp found).symm⟩
    rcases List.prefix_or_prefix_of_prefix begins (List.prefix_append _ after) with part | part
    · exact apart.shorter part
    · exact apart.longer part
  rw [decode?, body?, List.append_assoc, afterBegin?_append]
  simp only [Option.bind_eq_bind, Option.bind_some, refused, Option.bind_none]

end Labels

end SignedAdmission.Pem
