import Manifest.Proofs.Lowering.Filling

/-!
# Scopes that are lowered child by child

The children of a scope are lowered one after the other. Whenever some of them are done and the rest
is to come, the positions that are kept tell exactly which direct resources the container has so far
and where each of them stands (`Contents.Tracks`), whatever has become of the children and of the
scopes among them. So a declaration is merged if and only if the container has a resource of its
identity, and there is always something into which it is merged (`Placed`).
-/

namespace Manifest

variable {σ ι : Type}

/-- A position is kept for those identities of which there is a direct resource, and it is the place
of this resource, the only one of its identity. -/
structure Contents.Tracks (contents : Contents ι) : Prop where
  exists_position_iff : ∀ identity,
    (∃ position, contents.positions.get? identity = some position) ↔
      ∃ resource, .resource resource ∈ contents.children ∧ resource.identity = identity
  standing : ∀ identity position, contents.positions.get? identity = some position →
    ∃ (_inside : position < contents.children.length) (resource : RealizedResource ι),
      contents.children[position] = .resource resource ∧ resource.identity = identity ∧
        ∀ elsewhere other, contents.children[elsewhere]? = some (.resource other) →
          other.identity = identity → elsewhere = position

theorem Contents.Indexed.tracks {contents : Contents ι} (indexed : contents.Indexed) :
    contents.Tracks where
  exists_position_iff identity := by
    constructor
    · rintro ⟨position, kept⟩
      rcases (indexed identity position).1 kept with ⟨resource, there, same⟩
      exact ⟨resource, List.mem_of_getElem? there, same⟩
    · rintro ⟨resource, present, same⟩
      rcases List.mem_iff_getElem?.1 present with ⟨position, there⟩
      exact ⟨position, (indexed identity position).2 ⟨resource, there, same⟩⟩
  standing identity position kept := by
    rcases (indexed identity position).1 kept with ⟨resource, there, same⟩
    rcases List.getElem?_eq_some_iff.1 there with ⟨inside, here⟩
    refine ⟨inside, resource, here, same, ?_⟩
    intro elsewhere other standing sameOther
    have keptElsewhere := (indexed identity elsewhere).2 ⟨other, standing, sameOther⟩
    rw [kept, Option.some.injEq] at keptElsewhere
    exact keptElsewhere.symm

/-- A resource takes its place behind the other children. A failure, which has been recorded, leaves
no trace. -/
def Contents.settle (contents : Contents ι) (scope : String) :
    Resolution ι → Session σ → Outcome σ (Contents ι)
  | .realized resource, after =>
      (.ok (contents.addResource { resource with parent := some scope }), after)
  | .failed _, after => (.ok contents, after)

section

variable (provider : Provider σ ι) (options : Options)

/-- What becomes of a declaration that meets some contents, told by the children alone. -/
inductive Placed (scope : String) (declaration : Declaration) (contents : Contents ι)
    (session : Session σ) : Prop where
  /-- There is a resource of its identity, and it is merged into this resource. -/
  | merged {position : Nat} {existing : RealizedResource ι}
      (there : contents.children[position]? = some (.resource existing))
      (same : existing.identity = declaration.identity)
      (placed : placeDeclaration provider options scope declaration contents session =
        (.ok (contents.replace position (mergeInto provider scope existing declaration session).1),
          (mergeInto provider scope existing declaration session).2)) :
      Placed scope declaration contents session
  /-- There is none, and it is resolved. -/
  | resolved
      (new : ∀ resource, .resource resource ∈ contents.children →
        resource.identity ≠ declaration.identity)
      (placed : placeDeclaration provider options scope declaration contents session =
        (resolveDeclaration provider options declaration session).andThen
          (contents.settle scope)) :
      Placed scope declaration contents session

end

variable {provider : Provider σ ι} {options : Options}

/-- No declaration gets lost. -/
theorem Contents.Indexed.placed {contents : Contents ι} (indexed : contents.Indexed)
    (scope : String) (declaration : Declaration) (session : Session σ) :
    Placed provider options scope declaration contents session := by
  cases kept : contents.positions.get? declaration.identity with
  | some position =>
      rcases (indexed declaration.identity position).1 kept with ⟨existing, there, same⟩
      apply Placed.merged there same
      simp only [placeDeclaration, kept, there]
  | none =>
      apply Placed.resolved
      · intro resource present
        exact indexed.identity_ne kept present
      · simp only [placeDeclaration, kept]
        congr 1
        funext resolution after
        cases resolution <;> rfl

/-- The rest of the children is lowered into what the first ones have left. -/
theorem resolveChildren_append (scope : String) (before rest : List Child)
    (contents : Contents ι) (session : Session σ) :
    resolveChildren provider options scope (before ++ rest) contents session =
      (resolveChildren provider options scope before contents session).andThen
        (resolveChildren provider options scope rest) := by
  induction before generalizing contents session with
  | nil => rfl
  | cons child before ih =>
      cases child with
      | scope nested =>
          simp only [List.cons_append, resolveChildren, Outcome.andThen_assoc, ih]
      | declaration declaration =>
          simp only [List.cons_append, resolveChildren, Outcome.andThen_assoc, ih]

/-- At each child of a scope, what is left to do starts from contents in which the positions track
the resources, and if the child is a declaration, it is merged or resolved. The scope may as well be
one inside another scope, as no session is excluded in which it is lowered. -/
theorem tracks_at_every_child {tree : Scope} {name : String} (named : tree.name = some name)
    {before rest : List Child} (split : tree.children = before ++ rest)
    {session after : Session σ} {contents : Contents ι}
    (reached : resolveChildren provider options name before .empty
      (openContainer name tree.scopeType tree.defaults session).2 = (.ok contents, after)) :
    (resolveScope provider options tree session =
      (resolveChildren provider options name rest contents after).andThen fun final last =>
        (.ok ⟨name, tree.scopeType, tree.location,
          (openContainer name tree.scopeType tree.defaults session).1, final.children⟩, last)) ∧
      contents.Tracks ∧
      ∀ declaration later, rest = .declaration declaration :: later →
        Placed provider options name declaration contents after := by
  rcases tree with ⟨_, scopeType, location, defaults, children⟩
  dsimp only at named split reached
  subst named split
  -- whatever the rest leads to, the children that are done have been lowered to the end
  rcases exists_filling_of_resolveChildren Contents.indexed_empty reached with ⟨_, _, filling⟩
  have indexed : contents.Indexed := filling.indexed Contents.indexed_empty
  refine ⟨?_, indexed.tracks, ?_⟩
  · simp only [resolveScope, resolveChildren_append, reached]
    rfl
  · intro declaration later _
    exact indexed.placed name declaration after

/-- Before the last child of the sample tree is lowered, a container stands between its two resources.
The declaration that comes next is merged into the first one. -/
theorem tracks_at_every_child_sampleTree :
    let last := Memory.file "/a" 8 [("mode", .integer 644)] Memory.a_ne_empty
    ∃ (contents : Contents Memory.Instance) (after : Session Memory.World),
      Memory.sampleTree.name = some "main" ∧
        Memory.sampleTree.children =
          Memory.sampleTree.children.take 4 ++ [.declaration last] ∧
        resolveChildren Memory.files .default "main" (Memory.sampleTree.children.take 4) .empty
          (openContainer "main" none none (.start .empty)).2 = (.ok contents, after) ∧
        contents.positions.entries = [(⟨"file", "/a"⟩, 0), (⟨"file", "/b"⟩, 2)] ∧
        contents.Tracks ∧
        Placed Memory.files .default "main" last contents after := by
  intro last
  have named : Memory.sampleTree.name = some "main" := rfl
  have split : Memory.sampleTree.children =
      Memory.sampleTree.children.take 4 ++ [.declaration last] := rfl
  have reached : resolveChildren Memory.files .default "main"
      (Memory.sampleTree.children.take 4) .empty
      (openContainer "main" none none (.start .empty)).2 = (.ok _, _) := rfl
  rcases tracks_at_every_child named split reached with ⟨_, tracks, placed⟩
  exact ⟨_, _, named, split, reached, by decide +kernel, tracks, placed last [] rfl⟩

end Manifest
