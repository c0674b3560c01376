import Manifest.Lowering.Contents

/-!
# Positions of resources

While a container is being filled, the position of each of its resources is kept under the identity
of the resource. `Contents.Indexed` says that the positions and the children tell the same story,
and the lemmas below say that nothing that is done to the contents breaks it: a resource is only
added when its identity has no position yet, and it is only replaced by one of the same identity.
-/

namespace Manifest.Contents

variable {ι : Type}

/-- A position is kept under an identity iff a direct resource of that identity stands there. -/
def Indexed (contents : Contents ι) : Prop :=
  ∀ identity position, contents.positions.get? identity = some position ↔
    ∃ resource, contents.children[position]? = some (.resource resource) ∧
      resource.identity = identity

theorem indexed_empty : (empty : Contents ι).Indexed := by
  intro identity position
  simp [empty, Dictionary.empty, Dictionary.get?, Entries.lookup]

/-- No direct resource has an identity without a position. -/
theorem Indexed.identity_ne {contents : Contents ι} (indexed : contents.Indexed)
    {identity : Identity} (fresh : contents.positions.get? identity = none)
    {resource : RealizedResource ι} (present : .resource resource ∈ contents.children) :
    resource.identity ≠ identity := by
  rintro rfl
  rcases List.mem_iff_getElem?.1 present with ⟨position, there⟩
  have kept := (indexed resource.identity position).2 ⟨resource, there, rfl⟩
  rw [fresh] at kept
  contradiction

/-- What stands in a list with one more child stood there before, or is that child. -/
theorem getElem?_append_singleton_eq_some_iff {children : List (RealizedChild ι)}
    {child found : RealizedChild ι} {position : Nat} :
    (children ++ [child])[position]? = some found ↔
      children[position]? = some found ∨ (position = children.length ∧ child = found) := by
  rcases Nat.lt_trichotomy position children.length with before | rfl | after
  · rw [List.getElem?_append_left before]
    simp [Nat.ne_of_lt before]
  · simp
  · rw [List.getElem?_eq_none (by simp; omega), List.getElem?_eq_none (by omega)]
    simp [Nat.ne_of_gt after]

theorem Indexed.addResource {contents : Contents ι} (indexed : contents.Indexed)
    {resource : RealizedResource ι}
    (fresh : contents.positions.get? resource.identity = none) :
    (contents.addResource resource).Indexed := by
  intro identity position
  simp only [Contents.addResource, Dictionary.get?_insert, getElem?_append_singleton_eq_some_iff]
  by_cases same : resource.identity = identity
  · subst same
    rw [if_pos rfl, Option.some.injEq]
    constructor
    · rintro rfl
      exact ⟨resource, .inr ⟨rfl, rfl⟩, rfl⟩
    · rintro ⟨found, there | ⟨last, _⟩, sameIdentity⟩
      · have kept := (indexed resource.identity position).2 ⟨found, there, sameIdentity⟩
        rw [fresh] at kept
        contradiction
      · exact last.symm
  · rw [if_neg same, indexed identity position]
    constructor
    · rintro ⟨found, there, foundIdentity⟩
      exact ⟨found, .inl there, foundIdentity⟩
    · rintro ⟨found, there | ⟨_, added⟩, foundIdentity⟩
      · exact ⟨found, there, foundIdentity⟩
      · rw [RealizedChild.resource.injEq] at added
        exact absurd (added ▸ foundIdentity) same

theorem Indexed.addContainer {contents : Contents ι} (indexed : contents.Indexed)
    (container : Realized ι) : (contents.addContainer container).Indexed := by
  intro identity position
  simp only [Contents.addContainer, getElem?_append_singleton_eq_some_iff]
  rw [indexed identity position]
  simp

theorem Indexed.replace {contents : Contents ι} (indexed : contents.Indexed) {position : Nat}
    {existing resource : RealizedResource ι}
    (there : contents.children[position]? = some (.resource existing))
    (same : resource.identity = existing.identity) :
    (contents.replace position resource).Indexed := by
  intro identity other
  have inside := (List.getElem?_eq_some_iff.1 there).1
  simp only [Contents.replace]
  rw [indexed identity other]
  by_cases here : position = other
  · subst here
    rw [List.getElem?_set_self inside, there]
    simp [same]
  · rw [List.getElem?_set_ne here]

end Manifest.Contents
