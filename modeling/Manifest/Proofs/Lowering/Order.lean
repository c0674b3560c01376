import Manifest.Proofs.Lowering.Accounting

/-!
# The order of construction

A scope is lowered depth first, so that a nested scope is done with before its next sibling is
looked at. `Scope.sited` lists the declarations of a tree in this order, each with the path that
leads to its scope. The constructions that a run asks for come in the same order, and the resources
of the tree are those that succeeded, again in the same order (`InOrder`).

Two constructions for one scope have the same path, and those for different scopes never do
(`History.path_of_mem_constructions`). With the paths one can say that nothing is built twice in a
scope: once an identity is built there, no construction is asked for it there any more.
-/

namespace Manifest

variable {σ ι : Type}

mutual

/-- The declarations of a tree, depth first and in order, each with the path of its scope. The path
of a nested scope is that of the outer scope and the position among the children there. -/
def Scope.sited : List Nat → Scope → List (List Nat × Declaration)
  | path, ⟨_, _, _, _, children⟩ => Scope.sitedIn path 0 children

def Scope.sitedIn : List Nat → Nat → List Child → List (List Nat × Declaration)
  | _, _, [] => []
  | path, position, .declaration declaration :: rest =>
      (path, declaration) :: Scope.sitedIn path (position + 1) rest
  | path, position, .scope scope :: rest =>
      scope.sited (path ++ [position]) ++ Scope.sitedIn path (position + 1) rest

end

/-- A construction that was asked for, and whether it succeeded. -/
structure Construction where
  /-- The path of the scope for which it was asked. -/
  path : List Nat
  declaration : Declaration
  succeeded : Bool

namespace Construction

def identity (construction : Construction) : Identity :=
  construction.declaration.identity

def site (construction : Construction) : List Nat × Declaration :=
  (construction.path, construction.declaration)

def attempt (construction : Construction) : Identity × Bool :=
  (construction.identity, construction.succeeded)

end Construction

/-- The identity for which a call asks a type to build something, and whether the type did. -/
def Call.attempt? : Call ι → Option (Identity × Bool)
  | .construct resourceType attributes outcome =>
      some (⟨resourceType, Memory.nameOf attributes⟩, outcome.isOk)
  | .retrieve _ _ _ => none
  | .setAttribute _ _ _ => none
  | .setLocation _ _ => none
  | .destroy _ => none

/-- The constructions that were asked for are an excerpt of the declarations in depth first order,
the resources are those that succeeded, and no identity is built twice in a scope. -/
structure InOrder (scope : Scope) (calls : List (Call ι)) (resources : List Identity)
    (constructions : List Construction) : Prop where
  sites : (constructions.map Construction.site).Sublist (scope.sited [])
  attempts : calls.filterMap Call.attempt? = constructions.map Construction.attempt
  resources : resources =
    ((calls.filterMap Call.attempt?).filter Prod.snd).map Prod.fst
  once : constructions.Pairwise fun earlier later =>
    earlier.path = later.path → earlier.succeeded = true → later.identity ≠ earlier.identity

theorem Scope.map_snd_sitedIn (children : List Child) (path : List Nat) (position : Nat) :
    (sitedIn path position children).map Prod.snd = declarationsIn children := by
  induction children using children_induction generalizing path position with
  | nil => simp [sitedIn, declarationsIn]
  | declaration declaration rest ih => simp [sitedIn, declarationsIn, ih]
  | scope scope rest ihInner ihRest =>
      rcases scope with ⟨_, _, _, _, children⟩
      simp only [sitedIn, sited, declarationsIn, declarations, List.map_append, ihRest]
      rw [ihInner]

namespace History

/-- The constructions in a history, depth first and in order, from the child at a position on. -/
def constructions : List Nat → Nat → History → List Construction
  | _, _, .nil => []
  | path, position, .entry declaration .built rest =>
      ⟨path, declaration, true⟩ :: rest.constructions path (position + 1)
  | path, position, .entry declaration .failed rest =>
      ⟨path, declaration, false⟩ :: rest.constructions path (position + 1)
  | path, position, .entry _ .merged rest => rest.constructions path (position + 1)
  | path, position, .nested _ _ _ _ inner rest =>
      inner.constructions (path ++ [position]) 0 ++ rest.constructions path (position + 1)

theorem map_site_constructions_sublist (history : History) (path : List Nat) (position : Nat) :
    ((history.constructions path position).map Construction.site).Sublist
      (Scope.sitedIn path position history.children) := by
  induction history generalizing path position with
  | nil => simp [constructions]
  | entry declaration fate rest ih =>
      cases fate with
      | built => exact (ih path (position + 1)).cons_cons _
      | failed => exact (ih path (position + 1)).cons_cons _
      | merged => exact (ih path (position + 1)).cons _
  | nested name scopeType location defaults inner rest ihInner ihRest =>
      simp only [constructions, children, Scope.sitedIn, Scope.sited, List.map_append]
      exact (ihInner _ 0).append (ihRest path (position + 1))

theorem map_attempt_constructions (history : History) (path : List Nat) (position : Nat) :
    (history.constructions path position).map Construction.attempt = history.attempts := by
  induction history generalizing path position with
  | nil => rfl
  | entry declaration fate rest ih =>
      cases fate <;>
        simp [constructions, attempts, Construction.attempt, Construction.identity, ih]
  | nested name scopeType location defaults inner rest ihInner ihRest =>
      simp [constructions, attempts, ihInner, ihRest]

/-- Constructions for nested scopes have longer paths, which go on with the positions of these. -/
theorem path_of_mem_constructions {history : History} {path : List Nat} {position : Nat}
    {construction : Construction} (member : construction ∈ history.constructions path position) :
    construction.path = path ∨
      ∃ later below, position ≤ later ∧ construction.path = path ++ later :: below := by
  induction history generalizing path position with
  | nil => simp [constructions] at member
  | entry declaration fate rest ih =>
      have further (present : construction ∈ rest.constructions path (position + 1)) :
          construction.path = path ∨
            ∃ later below, position ≤ later ∧ construction.path = path ++ later :: below := by
        rcases ih present with same | ⟨later, below, past, longer⟩
        · exact .inl same
        · exact .inr ⟨later, below, by omega, longer⟩
      cases fate with
      | merged => exact further member
      | built =>
          rcases List.mem_cons.1 member with rfl | present
          · exact .inl rfl
          · exact further present
      | failed =>
          rcases List.mem_cons.1 member with rfl | present
          · exact .inl rfl
          · exact further present
  | nested name scopeType location defaults inner rest ihInner ihRest =>
      rcases List.mem_append.1 member with inside | present
      · right
        rcases ihInner inside with same | ⟨later, below, _, longer⟩
        · exact ⟨position, [], Nat.le_refl _, same⟩
        · refine ⟨position, later :: below, Nat.le_refl _, ?_⟩
          simpa using longer
      · rcases ihRest present with same | ⟨later, below, past, longer⟩
        · exact .inl same
        · exact .inr ⟨later, below, by omega, longer⟩

/-- The path of what is asked for in a nested scope leads through this scope. -/
theorem exists_path_eq_of_nested {inner : History} {path : List Nat} {position : Nat}
    {construction : Construction}
    (inside : construction ∈ inner.constructions (path ++ [position]) 0) :
    ∃ below, construction.path = path ++ position :: below := by
  rcases path_of_mem_constructions inside with here | ⟨later, below, _, deeper⟩
  · exact ⟨[], here⟩
  · refine ⟨later :: below, ?_⟩
    simpa using deeper

theorem path_ne_of_nested {inner rest : History} {path : List Nat} {position : Nat}
    {first second : Construction}
    (inside : first ∈ inner.constructions (path ++ [position]) 0)
    (after : second ∈ rest.constructions path (position + 1)) : first.path ≠ second.path := by
  intro same
  rcases exists_path_eq_of_nested inside with ⟨below, through⟩
  rcases path_of_mem_constructions after with there | ⟨later, further, past, there⟩
  · simp [through, there] at same
  · simp only [through, there, List.append_cancel_left_eq, List.cons.injEq] at same
    omega

/-- In a scope, nothing is constructed that was built there before. -/
theorem MergesBuilt.identity_notMem {history : History} {before : List Identity}
    (merges : history.MergesBuilt before) {path : List Nat} {position : Nat}
    {construction : Construction} (member : construction ∈ history.constructions path position)
    (here : construction.path = path) : construction.identity ∉ before := by
  induction history generalizing before position with
  | nil => simp [constructions] at member
  | entry declaration fate rest ih =>
      rcases merges with ⟨mergedIff, later⟩
      cases fate with
      | merged => exact ih later member
      | failed =>
          rcases List.mem_cons.1 member with rfl | present
          · intro old
            simpa using mergedIff.2 old
          · exact ih later present
      | built =>
          rcases List.mem_cons.1 member with rfl | present
          · intro old
            simpa using mergedIff.2 old
          · intro old
            exact ih later present (List.mem_cons_of_mem _ old)
  | nested name scopeType location defaults inner rest _ ih =>
      rcases List.mem_append.1 member with inside | present
      · rcases exists_path_eq_of_nested inside with ⟨below, through⟩
        simp [through] at here
      · exact ih merges.2 present

theorem MergesBuilt.pairwise_constructions {history : History} {before : List Identity}
    (merges : history.MergesBuilt before) (path : List Nat) (position : Nat) :
    (history.constructions path position).Pairwise fun earlier later =>
      earlier.path = later.path → earlier.succeeded = true →
        later.identity ≠ earlier.identity := by
  induction history generalizing before path position with
  | nil => exact .nil
  | entry declaration fate rest ih =>
      rcases merges with ⟨_, later⟩
      cases fate with
      | merged => exact ih later path (position + 1)
      | failed =>
          apply List.Pairwise.cons _ (ih later path (position + 1))
          intro construction _ _ succeeded
          contradiction
      | built =>
          apply List.Pairwise.cons _ (ih later path (position + 1))
          intro construction present here _ same
          apply MergesBuilt.identity_notMem later present here.symm
          rw [same]
          exact List.mem_cons_self
  | nested name scopeType location defaults inner rest ihInner ihRest =>
      apply List.pairwise_append.2
      refine ⟨ihInner merges.1 _ _, ihRest merges.2 _ _, ?_⟩
      intro first inside second after same
      exact absurd same (path_ne_of_nested inside after)

end History

theorem Handling.filterMap_attempt? {declaration : Declaration} {fate : Fate}
    {made : List (Call ι)} {failed : List Failure} (handling : Handling declaration fate made failed) :
    made.filterMap Call.attempt? = (History.entry declaration fate .nil).attempts := by
  have named : (⟨declaration.resourceType, Memory.nameOf declaration.attributes⟩ : Identity) =
      declaration.identity := by
    rw [Memory.nameOf_attributes]
    rfl
  cases handling with
  | built => simp [Call.attempt?, History.attempts, named, Except.isOk, Except.toBool]
  | @failed error _ _ _ cleans =>
      rcases error with ⟨message, remains⟩
      cases cleans <;> simp [Call.attempt?, History.attempts, named, Except.isOk, Except.toBool]
  | merged sets =>
      apply List.filterMap_eq_nil_iff.2
      intro call member
      rcases sets call member with ⟨handle, key, value, rfl⟩
      rfl

/-- The constructions that a run asks for are the attempts of its history. -/
theorem Transcript.filterMap_attempt? {history : History} {calls : List (Call ι)}
    {failures : List Failure} (transcript : Transcript history calls failures) :
    calls.filterMap Call.attempt? = history.attempts := by
  induction transcript with
  | nil => rfl
  | @entry declaration fate rest _ _ _ _ handling tail ih =>
      rw [List.filterMap_append, handling.filterMap_attempt?, ih]
      cases fate <;> rfl
  | nested within tail ihWithin ihTail =>
      rw [List.filterMap_append, ihWithin, ihTail, History.attempts]

variable {provider : Provider σ ι} {options : Options}

/-- In a tree that is lowered to the end, the resources are the constructions that succeeded, in the
order in which they were asked for, and this is the depth first order of the declarations. Nothing
that is already built in a scope is constructed there again. -/
theorem inOrder_of_lower {scope : Scope} {world : σ} {lowered : Lowered ι} {session : Session σ}
    (run : lower provider options scope world = (.ok lowered, session)) :
    (scope.sited []).map Prod.snd = scope.declarations ∧
      ∃ constructions,
        InOrder scope (callsOf provider options scope world)
          (lowered.root.resources.map RealizedResource.identity) constructions := by
  have attempted := (transcript_of_lower run).1.filterMap_attempt?
  have succeeded := map_identity_resources_of_lower run
  rcases filling_of_lower run with ⟨sameChildren, name, contents, last, _, filling, _, _⟩
  rcases scope with ⟨scopeName, scopeType, location, defaults, children⟩
  generalize Scope.history provider options _ world = history at *
  have merges : history.MergesBuilt [] := filling.mergesBuilt_of_empty
  refine ⟨Scope.map_snd_sitedIn children [] 0, history.constructions [] 0, ?_, ?_, ?_,
    merges.pairwise_constructions [] 0⟩
  · have excerpt := history.map_site_constructions_sublist [] 0
    rw [sameChildren] at excerpt
    exact excerpt
  · rw [attempted, history.map_attempt_constructions]
  · rw [attempted, succeeded]

/-- The sample tree asks for five constructions, of which the second and the third one fail: the
file of the inner scope has the same identity as the one around it, but another path. -/
theorem inOrder_of_lower_sampleTree :
    ∃ lowered session,
      lower Memory.files .default Memory.sampleTree .empty = (.ok lowered, session) ∧
        (callsOf Memory.files .default Memory.sampleTree .empty).filterMap Call.attempt? =
          [(⟨"file", "/a"⟩, true), (⟨"file", "/b"⟩, false), (⟨"file", "/a"⟩, false),
            (⟨"file", "/c"⟩, true), (⟨"file", "/b"⟩, true)] ∧
        (Memory.sampleTree.sited []).map Prod.fst = [[], [], [2], [2], [], []] ∧
        ∃ constructions,
          InOrder Memory.sampleTree (callsOf Memory.files .default Memory.sampleTree .empty)
            (lowered.root.resources.map RealizedResource.identity) constructions :=
  ⟨_, _, rfl, by decide +kernel, by decide +kernel, (inOrder_of_lower rfl).2⟩

end Manifest
