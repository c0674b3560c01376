import Manifest.Proofs.DeclarationLog
import Manifest.Proofs.Lowering.Acceptance
import Manifest.Proofs.Lowering.Accounting

/-!
# Where references lead

If a tree has no dangling references and is lowered completely, then every reference that a resource
carries names a resource of the lowered tree. The attributes of a resource come from declarations of
the tree (`Provider.KeepsAttributes.maintains_drawn`), what these refer to was declared, and what
was declared has become a resource (`names_iff_of_lower`).

Containers carry references too: those in the default attributes of scopes
(`Realizes.mem_references_containersIn`). The search for dangling references does not look there, so
that it remains to be asked of them that they are in the log (`names_references_of_lower`).
-/

namespace Manifest

variable {σ ι : Type} {provider : Provider σ ι} {options : Options}

/-- Whether an instance refers to an identity in one of its attributes, at any depth. -/
def Provider.Refers (provider : Provider σ ι) (handle : ι) (target : Identity) : Prop :=
  ∃ key value, provider.operations.attribute? handle key = some value ∧ target ∈ value.references

/-- Whether an identity is that of a resource in a tree. -/
def Realized.Names (root : Realized ι) (identity : Identity) : Prop :=
  ∃ resource ∈ root.resources, resource.identity = identity

instance (root : Realized ι) (identity : Identity) : Decidable (root.Names identity) :=
  inferInstanceAs (Decidable (∃ resource ∈ root.resources, resource.identity = identity))

mutual

/-- The identities that default attributes refer to, in a scope and in the scopes under it. -/
def Scope.defaultReferences : Scope → List Identity
  | ⟨_, _, _, defaults, children⟩ =>
      defaults.elim [] Attributes.references ++ Scope.defaultReferencesIn children

def Scope.defaultReferencesIn : List Child → List Identity
  | [] => []
  | .declaration _ :: rest => Scope.defaultReferencesIn rest
  | .scope scope :: rest => scope.defaultReferences ++ Scope.defaultReferencesIn rest

end

theorem Attributes.mem_references_iff {attributes : Attributes} {target : Identity} :
    target ∈ attributes.references ↔
      ∃ key value, attributes.get? key = some value ∧ target ∈ value.references := by
  simp only [references, List.mem_flatMap, Dictionary.get?_eq_some_iff, Prod.exists]

/-! ### Containers -/

/-- Name and type of a container are texts, so that it refers to what the defaults refer to. -/
theorem mem_references_seedAttributes {name : String} {scopeType : Option String}
    {defaults : Option Attributes} {target : Identity} :
    target ∈ (seedAttributes name scopeType defaults).references ↔
      target ∈ defaults.elim [] Attributes.references := by
  have own : (seedAttributes name scopeType none).references = [] := by
    cases scopeType <;> rfl
  cases defaults with
  | none => simp [own]
  | some given =>
      rw [Option.elim_some, Attributes.mem_references_iff, Attributes.mem_references_iff]
      constructor
      · rintro ⟨key, value, found, refers⟩
        rw [get?_seedAttributes, Option.bind_some, Option.or_eq_some_iff] at found
        rcases found with found | ⟨_, found⟩
        · exact ⟨key, value, found, refers⟩
        · have impossible := Attributes.mem_references_iff.2 ⟨key, value, found, refers⟩
          simp [own] at impossible
      · rintro ⟨key, value, found, refers⟩
        refine ⟨key, value, ?_, refers⟩
        rw [get?_seedAttributes, Option.bind_some, found, Option.some_or]

/-- The containers refer to what the defaults of their scopes refer to. -/
theorem Realizes.mem_references_containersIn {fits : Declaration → List Declaration → ι → Prop}
    {scope : String} {history : History} {children : List (RealizedChild ι)}
    (realizes : Realizes fits scope history children) (target : Identity) :
    (∃ container ∈ Realized.containersIn children, target ∈ container.attributes.references) ↔
      target ∈ Scope.defaultReferencesIn history.children := by
  induction realizes with
  | nil => simp [Realized.containersIn, History.children, Scope.defaultReferencesIn]
  | built once fit tail ih => exact ih
  | skipped unbuilt tail ih => exact ih
  | nested within tail ihWithin ihTail =>
      simp only [Realized.containersIn, Realized.containers, History.children,
        Scope.defaultReferencesIn, Scope.defaultReferences, List.cons_append, List.mem_cons,
        List.mem_append, or_and_right, exists_or, exists_eq_left, ihWithin, ihTail,
        mem_references_seedAttributes, or_assoc]

/-! ### Resources -/

/-- Whatever an instance says is said by the declaration it was built from or by a later one. -/
def Drawn (provider : Provider σ ι) (first : Declaration) (later : List Declaration) (handle : ι) :
    Prop :=
  ∀ key value, provider.operations.attribute? handle key = some value →
    ∃ declaration ∈ first :: later, declaration.attribute? key = some value

theorem Provider.KeepsAttributes.maintains_drawn (keeps : provider.KeepsAttributes) :
    provider.Maintains (Drawn provider) where
  built {declaration resourceType handle located before world after} known constructed moved := by
    intro key value found
    rw [attribute?_setLocation_construct keeps known constructed moved] at found
    exact ⟨declaration, List.mem_cons_self, found⟩
  merged scope declaration session first later existing drawn := by
    intro key value found
    have older (before : provider.operations.attribute? existing.handle key = some value) :
        ∃ other ∈ first :: (later ++ [declaration]), other.attribute? key = some value := by
      rcases drawn key value before with ⟨other, member, said⟩
      exact ⟨other, List.mem_append_left [declaration] member, said⟩
    rw [attribute?_mergeInto keeps] at found
    split at found
    · exact older found
    · rw [Option.or_eq_some_iff] at found
      rcases found with said | ⟨_, before⟩
      · exact ⟨declaration, by simp, said⟩
      · exact older before

namespace History

theorem mem_occurrences_of_mem_namesakes {history : History} {identity : Identity}
    {declaration : Declaration} (member : declaration ∈ history.namesakes identity) :
    declaration ∈ history.occurrences.map Prod.fst := by
  induction history with
  | nil => simp [namesakes] at member
  | entry first fate rest ih =>
      rw [occurrences, List.map_cons, List.mem_cons]
      rw [namesakes] at member
      split at member
      · rcases List.mem_cons.1 member with here | further
        · exact .inl here
        · exact .inr (ih further)
      · exact .inr (ih member)
  | nested name scopeType location defaults inner rest _ ih =>
      rw [occurrences, List.map_append, List.mem_append]
      exact .inr (ih member)

theorem mem_occurrences_of_firstBuilt? {history : History} {identity : Identity}
    {first : Declaration} {later : List Declaration}
    (found : history.firstBuilt? identity = some (first, later)) {declaration : Declaration}
    (member : declaration ∈ first :: later) :
    declaration ∈ history.occurrences.map Prod.fst := by
  induction history with
  | nil => contradiction
  | entry other fate rest ih =>
      rw [occurrences, List.map_cons, List.mem_cons]
      rw [firstBuilt?] at found
      split at found
      · rw [Option.some.injEq, Prod.mk.injEq] at found
        rcases found with ⟨rfl, rfl⟩
        rcases List.mem_cons.1 member with here | after
        · exact .inl here
        · exact .inr (mem_occurrences_of_mem_namesakes after)
      · exact .inr (ih found)
  | nested name scopeType location defaults inner rest _ ih =>
      rw [occurrences, List.map_append, List.mem_append]
      exact .inr (ih found)

theorem attempts_eq (history : History) :
    history.attempts = (history.occurrences.filter fun occurrence => occurrence.2 ≠ .merged).map
      fun occurrence => (occurrence.1.identity, decide (occurrence.2 = .built)) := by
  induction history with
  | nil => rfl
  | entry declaration fate rest ih => cases fate <;> simp [attempts, occurrences, ih]
  | nested name scopeType location defaults inner rest ihInner ihRest =>
      simp [attempts, occurrences, ihInner, ihRest]

theorem mem_attempts_iff {history : History} {identity : Identity} :
    (identity, true) ∈ history.attempts ↔
      ∃ declaration, (declaration, .built) ∈ history.occurrences ∧
        declaration.identity = identity := by
  rw [attempts_eq]
  simp only [List.mem_map, List.mem_filter, Prod.mk.injEq, decide_eq_true_eq, Prod.exists]
  constructor
  · rintro ⟨declaration, fate, ⟨occurs, _⟩, same, rfl⟩
    exact ⟨declaration, occurs, same⟩
  · rintro ⟨declaration, occurs, same⟩
    exact ⟨declaration, .built, ⟨occurs, by decide⟩, same, rfl⟩

/-- If no construction fails, one succeeded for every identity that is declared, at any depth. -/
theorem MergesBuilt.mem_attempts {history : History} {before : List Identity}
    (merges : history.MergesBuilt before)
    (unfailed : ∀ occurrence ∈ history.occurrences, occurrence.2 ≠ .failed)
    {occurrence : Declaration × Fate} (member : occurrence ∈ history.occurrences) :
    occurrence.1.identity ∈ before ∨ (occurrence.1.identity, true) ∈ history.attempts := by
  induction history generalizing before with
  | nil => simp [occurrences] at member
  | entry declaration fate rest ih =>
      have unfailedRest : ∀ occurrence ∈ rest.occurrences, occurrence.2 ≠ .failed := by
        intro occurrence later
        exact unfailed occurrence (List.mem_cons_of_mem _ later)
      rcases List.mem_cons.1 member with rfl | further
      · cases fate with
        | built => exact .inr List.mem_cons_self
        | failed => exact absurd rfl (unfailed _ List.mem_cons_self)
        | merged => exact .inl (merges.1.1 rfl)
      · have later := ih merges.2 unfailedRest further
        cases fate with
        | built =>
            rw [if_pos rfl, List.mem_cons] at later
            rw [attempts, List.mem_cons]
            rcases later with (same | old) | built
            · exact .inr (.inl (same ▸ rfl))
            · exact .inl old
            · exact .inr (.inr built)
        | failed => exact absurd rfl (unfailed _ List.mem_cons_self)
        | merged => exact later
  | nested name scopeType location defaults inner rest ihInner ihRest =>
      rw [attempts, List.mem_append]
      rcases List.mem_append.1 member with inside | after
      · have unfailedInner : ∀ occurrence ∈ inner.occurrences, occurrence.2 ≠ .failed := by
          intro occurrence present
          exact unfailed occurrence (List.mem_append_left _ present)
        have found := ihInner merges.1 unfailedInner inside
        exact .inr (.inl (found.resolve_left List.not_mem_nil))
      · have unfailedRest : ∀ occurrence ∈ rest.occurrences, occurrence.2 ≠ .failed := by
          intro occurrence present
          exact unfailed occurrence (List.mem_append_right _ present)
        exact (ihRest merges.2 unfailedRest after).imp_right .inr

end History

theorem map_fst_occurrences_of_lower {scope : Scope} {world : σ} {lowered : Lowered ι}
    {session : Session σ}
    (run : lower provider options scope world = (.ok lowered, session)) :
    (scope.history provider options world).occurrences.map Prod.fst = scope.declarations := by
  rw [History.map_fst_occurrences, (filling_of_lower run).1]
  rcases scope with ⟨_, _, _, _, children⟩
  rfl

/-- If a tree is lowered completely, what it declares and what its resources are is the same. -/
theorem names_iff_of_lower {scope : Scope} {world : σ} {lowered : Lowered ι} {session : Session σ}
    (run : lower provider options scope world = (.ok lowered, session))
    (complete : lowered.isComplete = true) (identity : Identity) :
    lowered.root.Names identity ↔
      ∃ declaration ∈ scope.declarations, declaration.identity = identity := by
  rcases (transcript_of_lower run).1.exists_accounts with ⟨attempts, accounts⟩
  rw [Lowered.isComplete, List.isEmpty_iff_length_eq_zero, accounts.length_failures,
    History.count_failed_eq_zero_iff] at complete
  rw [Realized.Names, exists_resource_iff_of_lower run, ← map_fst_occurrences_of_lower run]
  constructor
  · intro attempted
    rcases History.mem_attempts_iff.1 attempted with ⟨declaration, occurs, same⟩
    exact ⟨declaration, List.mem_map.2 ⟨_, occurs, rfl⟩, same⟩
  · rintro ⟨declaration, member, rfl⟩
    rcases List.mem_map.1 member with ⟨occurrence, occurs, rfl⟩
    rcases filling_of_lower run with ⟨_, _, _, _, _, filling, _, _⟩
    have attempted := filling.mergesBuilt_of_empty.mem_attempts complete occurs
    exact attempted.resolve_left List.not_mem_nil

/-- What a resource refers to, a declaration of its scope refers to. -/
theorem Realizes.exists_occurrence_of_refers {scope : String} {history : History}
    {children : List (RealizedChild ι)} (realizes : Realizes (Drawn provider) scope history children)
    {resource : RealizedResource ι} (present : .resource resource ∈ children)
    {target : Identity} (refers : provider.Refers resource.handle target) :
    ∃ occurrence ∈ history.occurrences, target ∈ occurrence.1.attributes.references := by
  rcases refers with ⟨key, value, found, inside⟩
  rcases realizes.exists_firstBuilt? present with ⟨first, later, built, _, _, _, drawn⟩
  rcases drawn key value found with ⟨declaration, member, said⟩
  rcases List.mem_map.1 (History.mem_occurrences_of_firstBuilt? built member) with
    ⟨occurrence, occurs, rfl⟩
  exact ⟨occurrence, occurs, Attributes.mem_references_iff.2 ⟨key, value, said, inside⟩⟩

theorem exists_declaration_of_refers (keeps : provider.KeepsAttributes) {scope : Scope} {world : σ}
    {lowered : Lowered ι} {session : Session σ}
    (run : lower provider options scope world = (.ok lowered, session))
    {resource : RealizedResource ι} (present : resource ∈ lowered.root.resources)
    {target : Identity} (refers : provider.Refers resource.handle target) :
    ∃ declaration ∈ scope.declarations, target ∈ declaration.attributes.references := by
  rcases forall₂_containers_of_lower keeps.maintains_drawn run with ⟨_, name, _, filled⟩
  rcases FilledBy.exists_site filled present with ⟨site, member, holder, within, direct⟩
  rcases within.2.exists_occurrence_of_refers direct refers with ⟨occurrence, occurs, found⟩
  have occurring : occurrence ∈ (scope.history provider options world).occurrences := by
    rcases List.mem_cons.1 member with rfl | inside
    · exact occurs
    · exact History.mem_occurrences_of_mem_scopes inside occurs
  rw [← map_fst_occurrences_of_lower run]
  exact ⟨occurrence.1, List.mem_map_of_mem occurring, found⟩

/-- The containers of a tree refer to what the default attributes in it refer to. -/
theorem exists_container_iff_of_lower {scope : Scope} {world : σ} {lowered : Lowered ι}
    {session : Session σ} (run : lower provider options scope world = (.ok lowered, session))
    (target : Identity) :
    (∃ container ∈ lowered.root.containers, target ∈ container.attributes.references) ↔
      target ∈ scope.defaultReferences := by
  rcases filling_of_lower run with ⟨sameChildren, name, contents, last, _, filling, rfl, _⟩
  have inside := (filling.realizes (Provider.maintains_true _) Contents.indexed_empty
    .nil).mem_references_containersIn target
  rcases scope with ⟨scopeName, scopeType, location, defaults, children⟩
  simp only [History.append, sameChildren] at inside
  simp only [Realized.containers, Scope.defaultReferences, openContainer_fst, List.mem_cons,
    List.mem_append, or_and_right, exists_or, exists_eq_left, inside,
    mem_references_seedAttributes]

/-- If a tree without dangling references is lowered completely, all that its resources refer to are
resources of the tree. The same goes for its containers if and only if all that default attributes
refer to was declared. -/
theorem names_references_of_lower (keeps : provider.KeepsAttributes) {log : DeclarationLog}
    (reachable : log.Reachable) {scope : Scope}
    (declared : ∀ declaration, declaration ∈ log.declarations ↔ declaration ∈ scope.declarations)
    (closed : log.danglingReferences scope = []) {world : σ} {lowered : Lowered ι}
    {session : Session σ} (run : lower provider options scope world = (.ok lowered, session))
    (complete : lowered.isComplete = true) :
    (∀ resource ∈ lowered.root.resources, ∀ target, provider.Refers resource.handle target →
        lowered.root.Names target) ∧
      ((∀ container ∈ lowered.root.containers, ∀ target ∈ container.attributes.references,
          lowered.root.Names target) ↔
        ∀ target ∈ scope.defaultReferences, log.contains target = true) := by
  have known (target : Identity) : lowered.root.Names target ↔ log.contains target = true := by
    rw [names_iff_of_lower run complete, reachable.consistent.contains_iff]
    simp only [declared]
  constructor
  · intro resource present target refers
    rcases exists_declaration_of_refers keeps run present refers with ⟨declaration, member, found⟩
    rw [known]
    exact (log.danglingReferences_eq_nil_iff scope).1 closed declaration member target found
  · constructor
    · intro names target refers
      rcases (exists_container_iff_of_lower run target).2 refers with ⟨container, present, found⟩
      exact (known target).1 (names container present target found)
    · intro registered container present target found
      apply (known target).2
      apply registered
      exact (exists_container_iff_of_lower run target).1 ⟨container, present, found⟩

/-- A file that refers to files in an inner scope, the last one through its duplicate, and a default
attribute that refers to one of them too. -/
def Memory.treeWithReferences : Scope :=
  { (Scope.named "main").param "require" (.reference ⟨"file", "/b"⟩) with children := [
    .declaration (file "/a" 1
      [("require", .list [.list [.reference ⟨"file", "/b"⟩], .boolean true])] a_ne_empty),
    .scope { Scope.named "inner" with children := [
      .declaration (file "/b" 3 [] b_ne_empty),
      .declaration (file "/c" 4 [("before", .reference ⟨"file", "/b"⟩)] c_ne_empty)] },
    .declaration (file "/a" 6 [("notify", .reference ⟨"file", "/c"⟩)] a_ne_empty)] }

/-- The order in which declarations are registered is of no importance. -/
theorem names_references_of_lower_treeWithReferences :
    ∃ log : DeclarationLog, log.Reachable ∧
      log.declarations = Memory.treeWithReferences.declarations.reverse ∧
      log.danglingReferences Memory.treeWithReferences = [] ∧ ∃ lowered session,
        lower Memory.files .default Memory.treeWithReferences .empty = (.ok lowered, session) ∧
          lowered.isComplete = true ∧
          (∀ resource ∈ lowered.root.resources, ∀ target,
            Memory.files.Refers resource.handle target → lowered.root.Names target) ∧
          ((∀ container ∈ lowered.root.containers, ∀ target ∈ container.attributes.references,
              lowered.root.Names target) ↔
            ∀ target ∈ Memory.treeWithReferences.defaultReferences,
              log.contains target = true) := by
  have reachable := DeclarationLog.Reachable.empty.registerAll
    Memory.treeWithReferences.declarations.reverse
  refine ⟨_, reachable, DeclarationLog.declarations_registerAll _ _, by decide +kernel, _, _, rfl,
    by decide +kernel, ?_⟩
  apply @names_references_of_lower _ _ Memory.files .default (Memory.keepsAttributes _) _ reachable
    Memory.treeWithReferences _ (by decide +kernel) .empty _ _ rfl (by decide +kernel)
  intro declaration
  rw [DeclarationLog.declarations_registerAll]
  exact List.mem_reverse

/-- A class whose only reference stands among its default attributes. -/
def Memory.treeWithDefaultReference : Scope :=
  { ((Scope.named "web").withType "class").param "require" (.reference ⟨"file", "/missing"⟩) with
    children := [.declaration (file "/a" 2 [] a_ne_empty)] }

/-- A reference among default attributes is carried by the container, whether or not its target was
declared, and it is not found to dangle. -/
theorem exists_container_reference_not_names :
    Memory.files.KeepsAttributes ∧ ∃ log : DeclarationLog, log.Reachable ∧
      log.declarations = Memory.treeWithDefaultReference.declarations ∧
      log.danglingReferences Memory.treeWithDefaultReference = [] ∧ ∃ lowered session,
        lower Memory.files .default Memory.treeWithDefaultReference .empty =
            (.ok lowered, session) ∧
          lowered.isComplete = true ∧
          ∃ container ∈ lowered.root.containers, ∃ target ∈ container.attributes.references,
            ¬ lowered.root.Names target := by
  refine ⟨Memory.keepsAttributes _, _, DeclarationLog.Reachable.empty.registerAll
    Memory.treeWithDefaultReference.declarations, DeclarationLog.declarations_registerAll _ _,
    by decide +kernel, _, _, rfl, by decide +kernel, _, List.mem_cons_self,
    ⟨"file", "/missing"⟩, by decide +kernel, by decide +kernel⟩

end Manifest
