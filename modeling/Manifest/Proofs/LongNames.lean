import Manifest.Declaration

/-!
# What a long name tells

A long name joins a type and a name by two hyphens, and nothing keeps hyphens out of either part. So
it can be possible to cut it in more than one place. If it is, one identity comes from the other one
by moving what stands between the two places from the name to the type (`Identity.Shifts`). Identities
that are not related in this way have different long names (`Identity.longName_eq_iff`), and a table
that is kept under long names does not mix them up (`crossReferences`).
-/

namespace Manifest

/-- The beginning of the name has moved to the end of the type. -/
inductive Identity.Shifts : Identity → Identity → Prop where
  /-- There are three hyphens in a row, and the first or the last of them joins nothing. -/
  | hyphen (resourceType name : String) :
      Shifts ⟨resourceType, "-" ++ name⟩ ⟨resourceType ++ "-", name⟩
  /-- There are two hyphens in front of some part and two behind it. -/
  | part (resourceType part name : String) :
      Shifts ⟨resourceType, part ++ "--" ++ name⟩ ⟨resourceType ++ "--" ++ part, name⟩

namespace Identity

/-- Some hyphens in the type can be the ones behind a shorter type. -/
def TypeSplits (identity : Identity) : Prop :=
  "--".toList <:+: identity.resourceType.toList ∨ "-".toList <:+ identity.resourceType.toList

/-- Some hyphens in the name can be the ones in front of a shorter name. -/
def NameSplits (identity : Identity) : Prop :=
  "--".toList <:+: identity.name.toList ∨ "-".toList <+: identity.name.toList

instance (identity : Identity) : Decidable identity.TypeSplits :=
  inferInstanceAs (Decidable (_ ∨ _))

instance (identity : Identity) : Decidable identity.NameSplits :=
  inferInstanceAs (Decidable (_ ∨ _))

variable {left right : Identity}

theorem toList_longName (identity : Identity) :
    identity.longName.toList =
      identity.resourceType.toList ++ '-' :: '-' :: identity.name.toList := by
  simp [longName]

namespace Shifts

theorem longName_eq (shifts : left.Shifts right) : left.longName = right.longName := by
  apply String.toList_inj.1
  cases shifts with
  | hyphen resourceType name => simp [toList_longName]
  | part resourceType part name => simp [toList_longName]

theorem ne (shifts : left.Shifts right) : left ≠ right := by
  intro same
  have lengths : left.resourceType.length = right.resourceType.length := by rw [same]
  cases shifts with
  | hyphen resourceType name => simp at lengths
  | part resourceType part name =>
      have hyphens : "--".length = 2 := rfl
      simp only [String.length_append] at lengths
      omega

theorem typeSplits (shifts : left.Shifts right) : right.TypeSplits := by
  cases shifts with
  | hyphen resourceType name =>
      right
      exact ⟨resourceType.toList, by simp⟩
  | part resourceType part name =>
      left
      exact ⟨resourceType.toList, part.toList, by simp⟩

theorem nameSplits (shifts : left.Shifts right) : left.NameSplits := by
  cases shifts with
  | hyphen resourceType name =>
      right
      exact ⟨name.toList, by simp⟩
  | part resourceType part name =>
      left
      exact ⟨part.toList, name.toList, by simp⟩

end Shifts

/-- If the type of one identity begins with the type of another one and both have the same long name,
what the longer type has more decides how they are related. -/
theorem eq_or_shifts {middle : List Char}
    (types : right.resourceType.toList = left.resourceType.toList ++ middle)
    (names : '-' :: '-' :: left.name.toList = middle ++ '-' :: '-' :: right.name.toList) :
    left = right ∨ left.Shifts right := by
  rcases left with ⟨leftType, leftName⟩
  rcases right with ⟨rightType, rightName⟩
  dsimp only at types names
  -- the hyphens that join either identity may be the same ones, share one hyphen, or be apart
  match middle with
  | [] =>
      left
      have sameTypes : leftType = rightType := by
        apply String.toList_inj.1
        rw [types, List.append_nil]
      have sameNames : leftName = rightName := by
        apply String.toList_inj.1
        simpa using names
      rw [sameTypes, sameNames]
  | [first] =>
      right
      simp only [List.cons_append, List.nil_append, List.cons.injEq] at names
      rcases names with ⟨rfl, -, name⟩
      have longerType : rightType = leftType ++ "-" := by
        apply String.toList_inj.1
        simpa using types
      have longerName : leftName = "-" ++ rightName := by
        apply String.toList_inj.1
        simpa using name
      rw [longerType, longerName]
      exact .hyphen leftType rightName
  | first :: second :: part =>
      right
      simp only [List.cons_append, List.cons.injEq] at names
      rcases names with ⟨rfl, rfl, name⟩
      have longerType : rightType = leftType ++ "--" ++ String.ofList part := by
        apply String.toList_inj.1
        simpa using types
      have longerName : leftName = String.ofList part ++ "--" ++ rightName := by
        apply String.toList_inj.1
        simpa using name
      rw [longerType, longerName]
      exact .part leftType (String.ofList part) rightName

theorem longName_eq_iff (left right : Identity) :
    left.longName = right.longName ↔ left = right ∨ left.Shifts right ∨ right.Shifts left := by
  constructor
  · intro same
    rw [← String.toList_inj, toList_longName, toList_longName, List.append_eq_append_iff] at same
    rcases same with ⟨middle, types, names⟩ | ⟨middle, types, names⟩
    · rcases eq_or_shifts types names with equal | shifts
      · exact .inl equal
      · exact .inr (.inl shifts)
    · rcases eq_or_shifts types names with equal | shifts
      · exact .inl equal.symm
      · exact .inr (.inr shifts)
  · rintro (equal | shifts | shifts)
    · rw [equal]
    · exact shifts.longName_eq
    · exact shifts.longName_eq.symm

end Identity

/-! ### Tables that are kept under long names -/

/-- The table that arises when values are entered under the long names of identities, one after the
other. -/
def crossReferences {ν : Type} (entries : List (Identity × ν)) : Dictionary String ν :=
  .ofList (entries.map fun entry => (entry.1.longName, entry.2))

/-- What is found under the long name of an identity was entered for it, if it was not entered for
one that is related to it by a shift. -/
theorem get?_crossReferences {ν : Type} {entries : List (Identity × ν)} {identity : Identity}
    (apart : ∀ entry ∈ entries, ¬entry.1.Shifts identity ∧ ¬identity.Shifts entry.1) :
    (crossReferences entries).get? identity.longName =
      (Dictionary.ofList entries).get? identity := by
  rw [crossReferences, Dictionary.get?_ofList, Dictionary.get?_ofList, ← List.map_reverse]
  apply Entries.lookup_map_of_separates
  intro entry present same
  rcases apart entry (List.mem_reverse.1 present) with ⟨notBefore, notAfter⟩
  rcases (Identity.longName_eq_iff entry.1 identity).1 same with equal | shifts | shifts
  · exact equal
  · exact absurd shifts notBefore
  · exact absurd shifts notAfter

/-- A long name belongs to one identity, but for shifts, which come with hyphens on either side. As
far as there are none, a table that is kept under long names answers as if it were kept under
identities. -/
theorem Identity.longName_identifies_up_to_shifts :
    (∀ left right : Identity,
      left.longName = right.longName ↔ left = right ∨ left.Shifts right ∨ right.Shifts left) ∧
    (∀ left right : Identity, left.Shifts right →
      left ≠ right ∧ left.NameSplits ∧ right.TypeSplits) ∧
    ∀ (ν : Type) (entries : List (Identity × ν)) (identity : Identity),
      (∀ entry ∈ entries, ¬entry.1.Shifts identity ∧ ¬identity.Shifts entry.1) →
        (crossReferences entries).get? identity.longName =
          (Dictionary.ofList entries).get? identity := by
  refine ⟨longName_eq_iff, ?_, ?_⟩
  · intro left right shifts
    exact ⟨shifts.ne, shifts.nameSplits, shifts.typeSplits⟩
  · intro ν entries identity apart
    exact get?_crossReferences apart

/-- A shift takes hyphens in the name and in the type. So the long name of a file without hyphens
is no one else's, although there are hyphens in the table. -/
theorem Identity.longName_identifies_up_to_shifts_file :
    let entries : List (Identity × Nat) :=
      [(⟨"file", "c"⟩, 1), (⟨"file--a", "b"⟩, 2), (⟨"file", "c"⟩, 3), (⟨"file", "c-"⟩, 4)]
    Shifts ⟨"file", "a--b"⟩ ⟨"file--a", "b"⟩ ∧
      NameSplits ⟨"file", "a--b"⟩ ∧ TypeSplits ⟨"file--a", "b"⟩ ∧
      (∀ entry ∈ entries,
        ¬entry.1.Shifts ⟨"file", "c"⟩ ∧ ¬Identity.Shifts ⟨"file", "c"⟩ entry.1) ∧
      (crossReferences entries).get? "file--c" =
        (Dictionary.ofList entries).get? ⟨"file", "c"⟩ ∧
      (Dictionary.ofList entries).get? ⟨"file", "c"⟩ = some 3 := by
  intro entries
  have noType : ¬TypeSplits ⟨"file", "c"⟩ := by decide
  have noName : ¬NameSplits ⟨"file", "c"⟩ := by decide
  have apart : ∀ entry ∈ entries,
      ¬entry.1.Shifts ⟨"file", "c"⟩ ∧ ¬Identity.Shifts ⟨"file", "c"⟩ entry.1 := by
    intro entry _
    exact ⟨fun shifts => noType shifts.typeSplits, fun shifts => noName shifts.nameSplits⟩
  have shifts : Shifts ⟨"file", "a--b"⟩ ⟨"file--a", "b"⟩ := .part "file" "a" "b"
  rcases longName_identifies_up_to_shifts with ⟨_, split, found⟩
  rcases split _ _ shifts with ⟨_, name, type⟩
  exact ⟨shifts, name, type, apart, found Nat entries ⟨"file", "c"⟩ apart, by decide +kernel⟩

/-- Two resources of different types can be declared such that both have the same long name. What is
then found for the first one was entered for the second one. -/
theorem Declaration.exists_same_longName :
    ∃ first second,
      create "file" "a--b" .unknown = .ok first ∧ create "file--a" "b" .unknown = .ok second ∧
        first.identity ≠ second.identity ∧
        first.identity.longName = second.identity.longName ∧
        (crossReferences [(first.identity, 1), (second.identity, 2)]).get?
          first.identity.longName = some 2 :=
  ⟨_, _, rfl, rfl, by decide, by decide, by decide +kernel⟩

end Manifest
