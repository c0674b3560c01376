import Manifest.Proofs.Lowering.Acceptance
import Manifest.Proofs.Lowering.Accounting
import Manifest.Proofs.Lowering.Additive

/-!
# What a run comes to

If types look at attributes alone and instances keep their attributes, then all that a run comes to
can be told from the tree before it is lowered. It is enough to know which declarations are refused
(`Provider.refuses`): from this the history of the run is computed (`Scope.forecast`), and from the
history the tree with what its resources show (`History.yield`) and the failures
(`Filling.failures_eq`). All that depends on the world is whether a failure finds an instance that
the type has kept under its name (`Failure.withoutRetrieval`).

What a run comes to for one identity in one scope is decided by the direct declarations of that
identity there and by nothing else (`History.firstBuilt?_forecastIn`,
`History.filter_failedHere_forecastIn`).
-/

namespace Manifest

variable {σ ι : Type}

namespace Provider

/-- How a declaration would be refused in a world: the message, and whether something remains. -/
def refusalOf? (provider : Provider σ ι) (world : σ) (declaration : Declaration) :
    Option (String × Bool) :=
  (provider.lookup declaration.resourceType).bind fun resourceType =>
    refusal? (resourceType.construct declaration.attributes world).1

def refuses (provider : Provider σ ι) (world : σ) (declaration : Declaration) : Bool :=
  (provider.refusalOf? world declaration).isSome

variable {provider : Provider σ ι}

theorem refusalOf?_of_construct {declaration : Declaration} {resourceType : ResourceType σ ι}
    {world after : σ} {outcome : Except (ConstructionError ι) ι}
    (known : provider.lookup declaration.resourceType = some resourceType)
    (constructed : resourceType.construct declaration.attributes world = (outcome, after)) :
    provider.refusalOf? world declaration = refusal? outcome := by
  simp [refusalOf?, known, constructed]

theorem Steady.refusalOf?_eq (steady : provider.Steady) (declaration : Declaration)
    (first second : σ) :
    provider.refusalOf? first declaration = provider.refusalOf? second declaration := by
  cases known : provider.lookup declaration.resourceType with
  | none => simp [refusalOf?, known]
  | some resourceType =>
      simpa [refusalOf?, known] using
        steady.refusal?_construct known declaration.attributes first second

end Provider

mutual

/-- The history that a scope is going to have, if it is known which declarations are refused. A
scope without a name, which is never lowered to the end, counts as one with an empty name. -/
def Scope.forecast (refused : Declaration → Bool) : Scope → History
  | ⟨_, _, _, _, children⟩ => Scope.forecastIn refused [] children

/-- The history that some children are going to have. The identities that were built directly in
their scope before are given. -/
def Scope.forecastIn (refused : Declaration → Bool) : List Identity → List Child → History
  | _, [] => .nil
  | before, .declaration declaration :: rest =>
      if declaration.identity ∈ before then
        .entry declaration .merged (Scope.forecastIn refused before rest)
      else if refused declaration then
        .entry declaration .failed (Scope.forecastIn refused before rest)
      else
        .entry declaration .built
          (Scope.forecastIn refused (declaration.identity :: before) rest)
  | before, .scope scope :: rest =>
      .nested (scope.name.getD "") scope.scopeType scope.location scope.defaults
        (scope.forecast refused) (Scope.forecastIn refused before rest)

end

/-- The direct declarations of an identity among some children, in order. -/
def Scope.namesakesIn (identity : Identity) : List Child → List Declaration
  | [] => []
  | .declaration declaration :: rest =>
      if declaration.identity = identity then declaration :: Scope.namesakesIn identity rest
      else Scope.namesakesIn identity rest
  | .scope _ :: rest => Scope.namesakesIn identity rest

/-- The first declaration that is not refused, and all that come after it. -/
def firstAccepted? (refused : Declaration → Bool) :
    List Declaration → Option (Declaration × List Declaration)
  | [] => none
  | declaration :: rest =>
      if refused declaration then firstAccepted? refused rest else some (declaration, rest)

/-- What a resource shows that was built from a declaration, with later ones merged into it. -/
def Declaration.shown (scope : String) (first : Declaration) (later : List Declaration) :
    RealizedResource (String → Option Value) :=
  ⟨first.identity, first.location, some scope, (first.overlay later).attribute?⟩

namespace History

/-- The children of a container after a run with this history, with what their resources show. -/
def yield (scope : String) : History → List (RealizedChild (String → Option Value))
  | .nil => []
  | .entry declaration .built rest =>
      .resource (declaration.shown scope (rest.namesakes declaration.identity)) ::
        rest.yield scope
  | .entry _ .failed rest => rest.yield scope
  | .entry _ .merged rest => rest.yield scope
  | .nested name scopeType location defaults inner rest =>
      .container ⟨name, scopeType, location, seedAttributes name scopeType defaults,
        inner.yield name⟩ :: rest.yield scope

/-- The declarations whose construction failed, depth first and in order. -/
def failed : History → List Declaration
  | .nil => []
  | .entry declaration .failed rest => declaration :: rest.failed
  | .entry _ .built rest => rest.failed
  | .entry _ .merged rest => rest.failed
  | .nested _ _ _ _ inner rest => inner.failed ++ rest.failed

/-- The direct declarations whose construction failed, in order. -/
def failedHere : History → List Declaration
  | .nil => []
  | .entry declaration .failed rest => declaration :: rest.failedHere
  | .entry _ .built rest => rest.failedHere
  | .entry _ .merged rest => rest.failedHere
  | .nested _ _ _ _ _ rest => rest.failedHere

end History

/-- What a scope is going to be lowered to, with what its resources show. -/
def Scope.yield (refused : Declaration → Bool) (scope : Scope) :
    Realized (String → Option Value) :=
  ⟨scope.name.getD "", scope.scopeType, scope.location,
    seedAttributes (scope.name.getD "") scope.scopeType scope.defaults,
    (scope.forecast refused).yield (scope.name.getD "")⟩

/-- The failure that a declaration leads to in a world, if it is refused there and the type has kept
nothing under its name. -/
def Provider.failureOf? (provider : Provider σ ι) (options : Options) (world : σ)
    (declaration : Declaration) : Option Failure :=
  (provider.refusalOf? world declaration).map fun refusal =>
    ⟨declaration.identity, declaration.location, refusal.1,
      if refusal.2 then .destroyedPartial else .nothing, dumpOf options declaration⟩

section

variable {refused : Declaration → Bool}

theorem Scope.forecast_eq (scope : Scope) :
    scope.forecast refused = forecastIn refused [] scope.children := by
  cases scope
  rfl

theorem History.namesakes_forecastIn (identity : Identity) (children : List Child)
    (before : List Identity) :
    (Scope.forecastIn refused before children).namesakes identity =
      Scope.namesakesIn identity children := by
  induction children using Scope.children_induction generalizing before with
  | nil => rfl
  | declaration declaration rest ih =>
      simp only [Scope.forecastIn, Scope.namesakesIn]
      split
      · simp [namesakes, ih]
      · split <;> simp [namesakes, ih]
  | scope scope rest _ ih => exact ih before

/-- What an identity is built from is decided by the direct declarations of this identity. -/
theorem History.firstBuilt?_forecastIn {identity : Identity} (children : List Child)
    {before : List Identity} (new : identity ∉ before) :
    (Scope.forecastIn refused before children).firstBuilt? identity =
      firstAccepted? refused (Scope.namesakesIn identity children) := by
  induction children using Scope.children_induction generalizing before with
  | nil => rfl
  | declaration declaration rest ih =>
      by_cases own : declaration.identity = identity
      · subst own
        by_cases fails : refused declaration = true
        · simp [Scope.forecastIn, Scope.namesakesIn, firstBuilt?, firstAccepted?, new, fails,
            ih new]
        · simp [Scope.forecastIn, Scope.namesakesIn, firstBuilt?, firstAccepted?, new, fails,
            namesakes_forecastIn]
      · have newer : identity ∉ declaration.identity :: before := by
          simp [new, Ne.symm own]
        simp only [Scope.forecastIn, Scope.namesakesIn, own, if_false]
        split
        · simp [firstBuilt?, ih new]
        · split
          · simp [firstBuilt?, ih new]
          · simp [firstBuilt?, own, ih newer]
  | scope scope rest _ ih => exact ih new

/-- Of an identity that was not built before, the declarations fail until one is accepted. -/
theorem History.filter_failedHere_forecastIn (identity : Identity) (children : List Child)
    (before : List Identity) :
    ((Scope.forecastIn refused before children).failedHere.filter fun declaration =>
        declaration.identity = identity) =
      if identity ∈ before then []
      else (Scope.namesakesIn identity children).takeWhile refused := by
  induction children using Scope.children_induction generalizing before with
  | nil => simp [Scope.forecastIn, Scope.namesakesIn, failedHere]
  | declaration declaration rest ih =>
      by_cases own : declaration.identity = identity
      · subst own
        by_cases old : declaration.identity ∈ before
        · simp [Scope.forecastIn, failedHere, old, ih]
        · by_cases fails : refused declaration = true
          · simp [Scope.forecastIn, Scope.namesakesIn, failedHere, old, fails, ih]
          · simp [Scope.forecastIn, Scope.namesakesIn, failedHere, old, fails, ih]
      · simp only [Scope.forecastIn, Scope.namesakesIn, own, if_false]
        split
        · simp [failedHere, ih]
        · split
          · simp [failedHere, own, ih]
          · simp [failedHere, ih, Ne.symm own]
  | scope scope rest _ ih => exact ih before

/-- In what a scope is lowered to, an identity is found as it was first built. -/
theorem History.find?_yield (history : History) (scope : String) (identity : Identity) :
    (((history.yield scope).filterMap RealizedChild.asResource?).find? fun resource =>
        resource.identity == identity) =
      (history.firstBuilt? identity).map fun made => made.1.shown scope made.2 := by
  induction history with
  | nil => rfl
  | entry declaration fate rest ih =>
      cases fate with
      | failed => simpa [yield, firstBuilt?] using ih
      | merged => simpa [yield, firstBuilt?] using ih
      | built =>
          by_cases own : declaration.identity = identity
          · subst own
            simp [yield, firstBuilt?, RealizedChild.asResource?, Declaration.shown]
          · simpa [yield, firstBuilt?, RealizedChild.asResource?, Declaration.shown, own] using ih
  | nested name scopeType location defaults inner rest _ ih =>
      simpa [yield, firstBuilt?, RealizedChild.asResource?] using ih

end

variable {provider : Provider σ ι} {options : Options}

/-- Built is what is not refused, and failed is what is refused, in whatever world. -/
def History.Settled (refused : Declaration → Bool) (history : History) : Prop :=
  ∀ occurrence ∈ history.occurrences,
    (occurrence.2 = .built → refused occurrence.1 = false) ∧
      (occurrence.2 = .failed → refused occurrence.1 = true)

theorem Filling.settled (steady : provider.Steady) {scope : String} {history : History}
    {contents final : Contents ι} {session last : Session σ}
    (filling : Filling provider options scope history contents session final last) (world : σ) :
    history.Settled (provider.refuses world) := by
  induction filling with
  | nil => simp [History.Settled, History.occurrences]
  | @entry _ declaration fate rest _ _ _ session _ _ placement tail ih =>
      intro occurrence member
      rcases List.mem_cons.1 member with rfl | further
      · have same := steady.refusalOf?_eq declaration world session.world
        cases placement with
        | built _ known constructed _ =>
            rw [Provider.refusalOf?_of_construct known constructed] at same
            simp [Provider.refuses, same, refusal?]
        | failed _ known refused =>
            rw [Provider.refusalOf?_of_construct known refused] at same
            simp [Provider.refuses, same, refusal?]
        | merged _ _ => simp
      · exact ih occurrence further
  | nested within tail ihWithin ihTail =>
      intro occurrence member
      rcases List.mem_append.1 member with inside | further
      · exact ihWithin occurrence inside
      · exact ihTail occurrence further

/-- All scopes in a history have names, so nothing is lost if each of them is read off the tree. -/
theorem History.eq_forecastIn {refused : Declaration → Bool} {history : History}
    (settled : history.Settled refused) {before : List Identity}
    (merges : history.MergesBuilt before) :
    history = Scope.forecastIn refused before history.children := by
  induction history generalizing before with
  | nil => rfl
  | entry declaration fate rest ih =>
      have here := settled _ List.mem_cons_self
      have further : rest.Settled refused := by
        intro occurrence member
        exact settled occurrence (List.mem_cons_of_mem _ member)
      have later := ih further merges.2
      simp only [children, Scope.forecastIn]
      cases fate with
      | merged =>
          have old := merges.1.1 rfl
          simpa [old] using later
      | failed =>
          have new : declaration.identity ∉ before := by simpa using merges.1
          simpa [new, here.2 rfl] using later
      | built =>
          have new : declaration.identity ∉ before := by simpa using merges.1
          simpa [new, here.1 rfl] using later
  | nested name scopeType location defaults inner rest ihInner ihRest =>
      have settledInner : inner.Settled refused := by
        intro occurrence member
        exact settled occurrence (List.mem_append_left _ member)
      have settledRest : rest.Settled refused := by
        intro occurrence member
        exact settled occurrence (List.mem_append_right _ member)
      simp only [children, Scope.forecastIn, Scope.forecast, Option.getD_some]
      rw [← ihInner settledInner merges.1, ← ihRest settledRest merges.2]

/-- The children that a history prescribes show what they are expected to show. -/
theorem Realizes.map_eq_yield {scope : String} {history : History}
    {children : List (RealizedChild ι)}
    (realizes : Realizes (Accepted provider) scope history children) :
    children.map (RealizedChild.map provider.operations.attribute?) = history.yield scope := by
  induction realizes with
  | nil => rfl
  | built once fit tail ih =>
      have shows := funext fit.attribute?_eq
      simp [RealizedChild.map, RealizedResource.map, History.yield, Declaration.shown, shows, ih]
  | @skipped _ _ fate _ _ unbuilt tail ih =>
      cases fate with
      | built => contradiction
      | failed => exact ih
      | merged => exact ih
  | nested within tail ihWithin ihTail =>
      simp [RealizedChild.map, Realized.map_mk, History.yield, ihWithin, ihTail]

theorem map_failures_recordFailure (resourceType : ResourceType σ ι) (declaration : Declaration)
    (error : ConstructionError ι) (session : Session σ) :
    (recordFailure provider options resourceType declaration error session).2.failures.map
        Failure.withoutRetrieval =
      session.failures.map Failure.withoutRetrieval ++
        [⟨declaration.identity, declaration.location, error.message,
          if error.remains.isSome then .destroyedPartial else .nothing,
          dumpOf options declaration⟩] := by
  rw [recordFailure_eq]
  simp [Session.followedBy, Failure.withoutRetrieval, withoutRetrieval_cleanUp]

/-- The failures that a run adds are those of the declarations that failed, in order. -/
theorem Filling.failures_eq (steady : provider.Steady) {scope : String} {history : History}
    {contents final : Contents ι} {session last : Session σ}
    (filling : Filling provider options scope history contents session final last) (world : σ) :
    last.failures.map Failure.withoutRetrieval =
      session.failures.map Failure.withoutRetrieval ++
        history.failed.filterMap (provider.failureOf? options world) := by
  induction filling with
  | nil => simp [History.failed]
  | @entry _ declaration fate rest _ _ _ session _ _ placement tail ih =>
      rw [ih]
      cases placement with
      | built _ _ _ _ => rfl
      | @failed resourceType error after _ known refused =>
          have same := steady.refusalOf?_eq declaration world session.world
          rw [Provider.refusalOf?_of_construct known refused] at same
          rw [map_failures_recordFailure]
          simp [Session.inWorld, History.failed, Provider.failureOf?, same, refusal?]
      | merged _ _ =>
          simp [mergeInto, mergeAttributes_failures, History.failed]
  | nested within tail ihWithin ihTail =>
      rw [ihTail, ihWithin, openContainer_snd]
      simp [History.failed]

/-- What a tree is lowered to can be told from the tree. -/
theorem forecast_of_lower (steady : provider.Steady) (keeps : provider.KeepsAttributes)
    {scope : Scope} {world : σ} {lowered : Lowered ι} {session : Session σ}
    (run : lower provider options scope world = (.ok lowered, session)) (other : σ) :
    lowered.root.map provider.operations.attribute? = scope.yield (provider.refuses other) ∧
      lowered.failures.map Failure.withoutRetrieval =
        (scope.forecast (provider.refuses other)).failed.filterMap
          (provider.failureOf? options other) := by
  rcases filling_of_lower run with ⟨sameChildren, name, contents, last, named, filling, rfl, _⟩
  have merges : (scope.history provider options world).MergesBuilt [] := filling.mergesBuilt_of_empty
  have told := History.eq_forecastIn (filling.settled steady other) merges
  rw [sameChildren, ← Scope.forecast_eq] at told
  have realizes := filling.realizes (steady.maintains_accepted keeps) Contents.indexed_empty .nil
  constructor
  · rw [Realized.map_mk, openContainer_fst, realizes.map_eq_yield, Scope.yield, named, ← told]
    rfl
  · rw [← told, filling.failures_eq steady other, openContainer_snd]
    simp [Session.start]

end Manifest
