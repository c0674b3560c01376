import Manifest.Proofs.Lowering.Shape
import Manifest.Proofs.Lowering.Survival
import Manifest.Proofs.Lowering.Transcript

/-!
# Every declaration is accounted for

Each declaration of a tree has one of three fates, and a run that ends well leaves the same account
of them everywhere it can be looked for: in the constructions that were asked for, in the resources
of the tree and in the failures (`Accounted`).

The link between them are the attempts. An attempt is a declaration that was not merged, with what
came of its construction; the attempts of a run are read off its transcript (`Accounts`), and the
counts follow from them.
-/

namespace Manifest

variable {σ ι : Type}

namespace History

/-- The declarations of a history and their fates, depth first and in order. -/
def occurrences : History → List (Declaration × Fate)
  | .nil => []
  | .entry declaration fate rest => (declaration, fate) :: rest.occurrences
  | .nested _ _ _ _ inner rest => inner.occurrences ++ rest.occurrences

/-- How many declarations of a history have a fate. -/
def count (fate : Fate) (history : History) : Nat :=
  history.occurrences.countP fun occurrence => occurrence.2 = fate

/-- In each scope, the declarations that are merged are those of an identity that was built directly
in the same scope before. What was built there before the history is given. -/
def MergesBuilt (before : List Identity) : History → Prop
  | .nil => True
  | .entry declaration fate rest =>
      (fate = .merged ↔ declaration.identity ∈ before) ∧
        rest.MergesBuilt (if fate = .built then declaration.identity :: before else before)
  | .nested _ _ _ _ inner rest => inner.MergesBuilt [] ∧ rest.MergesBuilt before

theorem map_fst_occurrences (history : History) :
    history.occurrences.map Prod.fst = Scope.declarationsIn history.children := by
  induction history with
  | nil => rfl
  | entry declaration fate rest ih =>
      simp only [occurrences, children, Scope.declarationsIn, List.map_cons, ih]
  | nested name scopeType location defaults inner rest ihInner ihRest =>
      simp only [occurrences, children, Scope.declarationsIn, Scope.declarations, List.map_append,
        ihInner, ihRest]

theorem length_occurrences (history : History) :
    history.occurrences.length =
      history.count .built + history.count .failed + history.count .merged := by
  rw [count, count, count]
  induction history.occurrences with
  | nil => rfl
  | cons occurrence rest ih =>
      rcases occurrence with ⟨declaration, fate⟩
      cases fate <;> simp [ih] <;> omega

theorem length_filter_occurrences (history : History) :
    (history.occurrences.filter fun occurrence => occurrence.2 ≠ .merged).length =
      history.count .built + history.count .failed := by
  have whole := history.length_occurrences
  have parts := List.length_eq_countP_add_countP (l := history.occurrences)
    fun occurrence => occurrence.2 = .merged
  rw [← List.countP_eq_length_filter]
  simp only [count, decide_eq_true_eq, ne_eq] at *
  omega

theorem length_filter_attempts (history : History) :
    (history.attempts.filter Prod.snd).length = history.count .built := by
  rw [count]
  induction history with
  | nil => rfl
  | entry declaration fate rest ih => cases fate <;> simp [attempts, occurrences, ih]
  | nested name scopeType location defaults inner rest ihInner ihRest =>
      simp [attempts, occurrences, ihInner, ihRest]

theorem mem_occurrences_of_mem_scopes {history : History} {site : String × History}
    (member : site ∈ history.scopes) {occurrence : Declaration × Fate}
    (present : occurrence ∈ site.2.occurrences) : occurrence ∈ history.occurrences := by
  induction history with
  | nil => simp [scopes] at member
  | entry declaration fate rest ih => exact List.mem_cons_of_mem _ (ih member)
  | nested name scopeType location defaults inner rest ihInner ihRest =>
      rw [occurrences, List.mem_append]
      rw [scopes, List.mem_cons, List.mem_append] at member
      rcases member with rfl | inside | after
      · exact .inl present
      · exact .inl (ihInner inside)
      · exact .inr (ihRest after)

namespace MergesBuilt

theorem of_mem_scopes {history : History} {before : List Identity}
    (merges : history.MergesBuilt before) {site : String × History}
    (member : site ∈ history.scopes) : site.2.MergesBuilt [] := by
  induction history generalizing before with
  | nil => simp [scopes] at member
  | entry declaration fate rest ih => exact ih merges.2 member
  | nested name scopeType location defaults inner rest ihInner ihRest =>
      rw [scopes, List.mem_cons, List.mem_append] at member
      rcases member with rfl | inside | after
      · exact merges.1
      · exact ihInner merges.1 inside
      · exact ihRest merges.2 after

/-- If no construction fails, every identity that is declared in a scope is built there. -/
theorem identity_mem_builtHere {history : History} {before : List Identity}
    (merges : history.MergesBuilt before)
    (unfailed : ∀ occurrence ∈ history.occurrences, occurrence.2 ≠ .failed)
    {declaration : Declaration} (present : .declaration declaration ∈ history.children) :
    declaration.identity ∈ before ∨ declaration.identity ∈ history.builtHere := by
  induction history generalizing before with
  | nil => simp [children] at present
  | entry first fate rest ih =>
      have unfailedRest : ∀ occurrence ∈ rest.occurrences, occurrence.2 ≠ .failed := by
        intro occurrence member
        exact unfailed occurrence (List.mem_cons_of_mem _ member)
      rcases List.mem_cons.1 present with here | further
      · rw [Child.declaration.injEq] at here
        subst here
        cases fate with
        | built => exact .inr List.mem_cons_self
        | failed => exact absurd rfl (unfailed _ List.mem_cons_self)
        | merged => exact .inl (merges.1.1 rfl)
      · have later := ih merges.2 unfailedRest further
        cases fate with
        | built =>
            rw [if_pos rfl, List.mem_cons] at later
            rw [builtHere, List.mem_cons]
            rcases later with (same | old) | built
            · exact .inr (.inl same)
            · exact .inl old
            · exact .inr (.inr built)
        | failed => exact later
        | merged => exact later
  | nested name scopeType location defaults inner rest _ ih =>
      have further : .declaration declaration ∈ rest.children := by
        rcases List.mem_cons.1 present with here | further
        · contradiction
        · exact further
      apply ih merges.2 _ further
      intro occurrence member
      exact unfailed occurrence (List.mem_append_right _ member)

end MergesBuilt

end History

/-- While children are lowered, the name table holds the identities that were built before. -/
theorem Filling.mergesBuilt {provider : Provider σ ι} {options : Options} {scope : String}
    {history : History} {contents final : Contents ι} {session last : Session σ}
    (filling : Filling provider options scope history contents session final last)
    {before : List Identity}
    (table : ∀ identity, contents.positions.get? identity = none ↔ identity ∉ before) :
    history.MergesBuilt before := by
  induction filling generalizing before with
  | nil => trivial
  | @entry _ declaration fate _ contents _ _ _ _ _ placement tail ih =>
      cases placement with
      | built fresh _ _ _ =>
          have new := (table _).1 fresh
          refine ⟨⟨by simp, fun old => absurd old new⟩, ih ?_⟩
          intro identity
          rw [Contents.addResource, Dictionary.get?_insert, if_pos rfl, List.mem_cons, not_or]
          by_cases same : declaration.identity = identity
          · simp [same]
          · simp [same, Ne.symm same, table identity]
      | failed fresh _ _ =>
          have new := (table _).1 fresh
          exact ⟨⟨by simp, fun old => absurd old new⟩, ih table⟩
      | merged kept _ =>
          have old : declaration.identity ∈ before := by
            by_contra new
            rw [(table _).2 new] at kept
            contradiction
          exact ⟨⟨fun _ => old, fun _ => rfl⟩, ih table⟩
  | nested within tail ihWithin ihTail =>
      refine ⟨ihWithin ?_, ihTail table⟩
      intro identity
      simp [Contents.empty, Dictionary.empty, Dictionary.get?, Entries.lookup]

theorem Filling.mergesBuilt_of_empty {provider : Provider σ ι} {options : Options}
    {scope : String} {history : History} {final : Contents ι} {session last : Session σ}
    (filling : Filling provider options scope history .empty session final last) :
    history.MergesBuilt [] := by
  apply filling.mergesBuilt
  intro identity
  simp [Contents.empty, Dictionary.empty, Dictionary.get?, Entries.lookup]

/-- A construction that was attempted for a declaration, and what came of it. -/
structure Attempt (ι : Type) where
  declaration : Declaration
  outcome : Except (ConstructionError ι) ι

namespace Attempt

def occurrence (attempt : Attempt ι) : Declaration × Fate :=
  (attempt.declaration,
    match attempt.outcome with
    | .ok _ => .built
    | .error _ => .failed)

def construction (attempt : Attempt ι) : String × Attributes × Except (ConstructionError ι) ι :=
  (attempt.declaration.resourceType, attempt.declaration.attributes, attempt.outcome)

/-- What there is to tell about an attempt that failed. -/
def report? (attempt : Attempt ι) : Option (Identity × Location × String) :=
  match attempt.outcome with
  | .ok _ => none
  | .error error =>
      some (attempt.declaration.identity, attempt.declaration.location, error.message)

end Attempt

/-- The type, the attributes and the answer of a call that asks for a construction. -/
def Call.construction? : Call ι → Option (String × Attributes × Except (ConstructionError ι) ι)
  | .construct resourceType attributes outcome => some (resourceType, attributes, outcome)
  | .retrieve _ _ _ => none
  | .setAttribute _ _ _ => none
  | .setLocation _ _ => none
  | .destroy _ => none

def Failure.report (failure : Failure) : Identity × Location × String :=
  (failure.identity, failure.location, failure.cause)

/-- The attempts are those declarations that were not merged, each with its fate; the constructions
that were asked for are those of the attempts; and the failures are the attempts that failed. -/
structure Accounts (attempts : List (Attempt ι)) (occurrences : List (Declaration × Fate))
    (calls : List (Call ι)) (failures : List Failure) : Prop where
  occurrences : attempts.map Attempt.occurrence =
    occurrences.filter fun occurrence => occurrence.2 ≠ .merged
  constructions : attempts.map Attempt.construction = calls.filterMap Call.construction?
  failures : attempts.filterMap Attempt.report? = failures.map Failure.report

namespace Accounts

theorem append {first second : List (Attempt ι)} {before after : List (Declaration × Fate)}
    {made later : List (Call ι)} {failed failures : List Failure}
    (left : Accounts first before made failed) (right : Accounts second after later failures) :
    Accounts (first ++ second) (before ++ after) (made ++ later) (failed ++ failures) where
  occurrences := by
    rw [List.map_append, List.filter_append, left.occurrences, right.occurrences]
  constructions := by
    rw [List.map_append, List.filterMap_append, left.constructions, right.constructions]
  failures := by
    rw [List.filterMap_append, List.map_append, left.failures, right.failures]

variable {attempts : List (Attempt ι)} {history : History} {calls : List (Call ι)}
  {failures : List Failure}

theorem length_constructions (accounts : Accounts attempts history.occurrences calls failures) :
    (calls.filterMap Call.construction?).length = history.count .built + history.count .failed := by
  rw [← accounts.constructions, List.length_map, ← List.length_map (f := Attempt.occurrence),
    accounts.occurrences, history.length_filter_occurrences]

theorem length_failures (accounts : Accounts attempts history.occurrences calls failures) :
    failures.length = history.count .failed := by
  have reported : ∀ attempt ∈ attempts, (Attempt.report? attempt).isSome = true ↔
      decide (attempt.occurrence.2 = .failed) = true := by
    rintro ⟨declaration, error | handle⟩ _ <;> simp [Attempt.report?, Attempt.occurrence]
  calc failures.length
      = (attempts.filterMap Attempt.report?).length := by
        rw [accounts.failures, List.length_map]
    _ = (attempts.map Attempt.occurrence).countP fun occurrence => occurrence.2 = .failed := by
        rw [List.length_filterMap_eq_countP, List.countP_map]
        exact List.countP_congr reported
    _ = history.count .failed := by
        rw [accounts.occurrences, List.countP_filter, History.count]
        apply List.countP_congr
        rintro ⟨declaration, fate⟩ _
        cases fate <;> simp

end Accounts

/-- What lowering one declaration asks for and keeps is accounted for by one attempt, or by none if
the declaration is merged. -/
theorem Handling.exists_accounts {declaration : Declaration} {fate : Fate} {made : List (Call ι)}
    {failed : List Failure} (handling : Handling declaration fate made failed) :
    ∃ attempts, Accounts attempts [(declaration, fate)] made failed := by
  cases handling with
  | @built handle =>
      exact ⟨[⟨declaration, .ok handle⟩], ⟨rfl, rfl, rfl⟩⟩
  | @failed error cleanup cleaning dump cleans =>
      rcases error with ⟨message, remains⟩
      refine ⟨[⟨declaration, .error ⟨message, remains⟩⟩], ⟨rfl, ?_, rfl⟩⟩
      cases cleans <;> rfl
  | merged sets =>
      refine ⟨[], ⟨rfl, ?_, rfl⟩⟩
      rw [List.map_nil, eq_comm, List.filterMap_eq_nil_iff]
      intro call member
      rcases sets call member with ⟨handle, key, value, rfl⟩
      rfl

theorem Transcript.exists_accounts {history : History} {calls : List (Call ι)}
    {failures : List Failure} (transcript : Transcript history calls failures) :
    ∃ attempts, Accounts attempts history.occurrences calls failures := by
  induction transcript with
  | nil => exact ⟨[], ⟨rfl, rfl, rfl⟩⟩
  | entry handling tail ih =>
      rcases handling.exists_accounts with ⟨first, here⟩
      rcases ih with ⟨rest, later⟩
      exact ⟨first ++ rest, here.append later⟩
  | nested within tail ihWithin ihTail =>
      rcases ihWithin with ⟨inside, here⟩
      rcases ihTail with ⟨rest, later⟩
      exact ⟨inside ++ rest, here.append later⟩

/-- The container of a scope, which is given with its name and its history, finds every identity
that is declared directly in the scope. -/
def Finds (site : String × History) (container : Realized ι) : Prop :=
  container.name = site.1 ∧ ∀ declaration, .declaration declaration ∈ site.2.children →
    ∃ resource, container.find? declaration.identity = some resource

theorem FilledBy.finds {fits : Declaration → List Declaration → ι → Prop}
    {site : String × History} {container : Realized ι} (filled : FilledBy fits site container)
    (merges : site.2.MergesBuilt [])
    (unfailed : ∀ occurrence ∈ site.2.occurrences, occurrence.2 ≠ .failed) :
    Finds site container := by
  refine ⟨filled.1, ?_⟩
  intro declaration present
  have built := (merges.identity_mem_builtHere unfailed present).resolve_left List.not_mem_nil
  rw [← Option.isSome_iff_exists, Option.isSome_iff_ne_none]
  intro missing
  exact (filled.shaped.find?_eq_none_iff declaration.identity).1 missing built

theorem forall₂_finds {fits : Declaration → List Declaration → ι → Prop} {name : String}
    {history : History} {containers : List (Realized ι)}
    (filled : List.Forall₂ (FilledBy fits) ((name, history) :: history.scopes) containers)
    (merges : history.MergesBuilt [])
    (unfailed : ∀ occurrence ∈ history.occurrences, occurrence.2 ≠ .failed) :
    List.Forall₂ Finds ((name, history) :: history.scopes) containers := by
  have finding : ∀ site ∈ (name, history) :: history.scopes,
      site.2.MergesBuilt [] ∧ ∀ occurrence ∈ site.2.occurrences, occurrence.2 ≠ .failed := by
    intro site member
    rcases List.mem_cons.1 member with rfl | inside
    · exact ⟨merges, unfailed⟩
    · refine ⟨merges.of_mem_scopes inside, ?_⟩
      intro occurrence present
      exact unfailed occurrence (History.mem_occurrences_of_mem_scopes inside present)
  apply ((List.forall₂_and_left _ _).2 ⟨finding, filled⟩).imp
  rintro site container ⟨⟨mergesHere, unfailedHere⟩, filledHere⟩
  exact filledHere.finds mergesHere unfailedHere

variable {provider : Provider σ ι} {options : Options}

theorem Filling.length_resourcesIn {scope : String} {history : History} {final : Contents ι}
    {session last : Session σ}
    (filling : Filling provider options scope history .empty session final last) :
    (Realized.resourcesIn final.children).length = history.count .built := by
  have realizes : Realizes (fun _ _ _ => True) scope history final.children :=
    filling.realizes provider.maintains_true Contents.indexed_empty .nil
  have identities := congrArg List.length realizes.map_identity_resourcesIn
  rw [List.length_map, List.length_map] at identities
  rw [identities, history.length_filter_attempts]

theorem History.count_failed_eq_zero_iff (history : History) :
    history.count .failed = 0 ↔ ∀ occurrence ∈ history.occurrences, occurrence.2 ≠ .failed := by
  rw [count, List.countP_eq_zero]
  simp only [decide_eq_true_eq, ne_eq]

/-- How the declarations of a tree are accounted for by a run on it. -/
structure Accounted (provider : Provider σ ι) (options : Options) (scope : Scope) (world : σ)
    (lowered : Lowered ι) : Prop where
  /-- Each declaration of the tree has one fate. -/
  occurrences : (scope.history provider options world).occurrences.map Prod.fst =
    scope.declarations
  /-- A declaration is merged if and only if an earlier one of its scope was built. -/
  merged : (scope.history provider options world).MergesBuilt []
  /-- Those that are not merged are constructed, and those that fail are kept, all in order. -/
  attempts : ∃ attempts, Accounts attempts (scope.history provider options world).occurrences
    (callsOf provider options scope world) lowered.failures
  constructions : ((callsOf provider options scope world).filterMap Call.construction?).length =
    (scope.history provider options world).count .built +
      (scope.history provider options world).count .failed
  total : scope.declarations.length = lowered.root.resources.length + lowered.failures.length +
    (scope.history provider options world).count .merged
  isComplete_iff : lowered.isComplete = true ↔
    ∀ occurrence ∈ (scope.history provider options world).occurrences, occurrence.2 ≠ .failed
  /-- If the tree is complete, the container of each scope finds what is declared there. -/
  finds : lowered.isComplete = true → ∃ name, scope.name = some name ∧
    List.Forall₂ Finds
      ((name, scope.history provider options world) ::
        (scope.history provider options world).scopes)
      lowered.root.containers

/-- All declarations of a tree that is lowered to the end are accounted for. -/
theorem accounted_of_lower {scope : Scope} {world : σ} {lowered : Lowered ι} {session : Session σ}
    (run : lower provider options scope world = (.ok lowered, session)) :
    (scope.history provider options world).children = scope.children ∧
      Accounted provider options scope world lowered := by
  rcases (transcript_of_lower run).1.exists_accounts with ⟨attempts, accounts⟩
  rcases forall₂_containers_of_lower provider.maintains_true run with
    ⟨sameChildren, name, named, filled⟩
  rcases filling_of_lower run with ⟨-, _, contents, last, -, filling, built, -⟩
  have declared : (scope.history provider options world).occurrences.map Prod.fst =
      scope.declarations := by
    rw [History.map_fst_occurrences, sameChildren]
    rcases scope with ⟨_, _, _, _, children⟩
    rfl
  have merges : (scope.history provider options world).MergesBuilt [] := by
    apply filling.mergesBuilt
    intro identity
    simp [Contents.empty, Dictionary.empty, Dictionary.get?, Entries.lookup]
  have resources : lowered.root.resources.length =
      (scope.history provider options world).count .built := by
    rw [built]
    exact filling.length_resourcesIn
  have complete : lowered.isComplete = true ↔
      ∀ occurrence ∈ (scope.history provider options world).occurrences,
        occurrence.2 ≠ .failed := by
    rw [Lowered.isComplete, List.isEmpty_iff_length_eq_zero, accounts.length_failures,
      History.count_failed_eq_zero_iff]
  refine ⟨sameChildren, declared, merges, ⟨attempts, accounts⟩, accounts.length_constructions, ?_,
    complete, ?_⟩
  · rw [← declared, List.length_map, History.length_occurrences, resources,
      accounts.length_failures]
  · intro isComplete
    exact ⟨name, named, forall₂_finds filled merges (complete.1 isComplete)⟩

/-- Of the six declarations of the sample tree three are built, two fail and the last one is merged
into the first. -/
theorem accounted_of_lower_sampleTree :
    ∃ lowered session,
      lower Memory.files .default Memory.sampleTree .empty = (.ok lowered, session) ∧
        ((Memory.sampleTree.history Memory.files .default .empty).count .built,
          (Memory.sampleTree.history Memory.files .default .empty).count .failed,
          (Memory.sampleTree.history Memory.files .default .empty).count .merged) = (3, 2, 1) ∧
        lowered.failures.map Failure.report =
          [(⟨"file", "/b"⟩, ⟨some "site.pp", some 2⟩, "invalid parameter"),
            (⟨"file", "/a"⟩, ⟨some "site.pp", some 4⟩, "invalid parameter")] ∧
        Accounted Memory.files .default Memory.sampleTree .empty lowered :=
  ⟨_, _, rfl, by decide +kernel, by decide +kernel, (accounted_of_lower rfl).2⟩

end Manifest
