import Manifest.Proofs.Lowering.Additive

/-!
# Failures as the calls tell them

Whether lowering ends well or with a fatal error, the failures that it keeps can be told from the
calls it has made (`FailuresOf`): there is one for each construction that was refused, in the order
of the calls, and the calls that clean up after it come next. A run with a recording provider is the
run itself with its calls put down, and each step adds calls and failures that belong together
(`Recounts`).
-/

namespace Manifest

variable {σ ι α β : Type}

/-- Whether a call gives an instance an attribute or a location. -/
def Call.isSetting : Call ι → Bool
  | .setAttribute _ _ _ => true
  | .setLocation _ _ => true
  | .construct _ _ _ => false
  | .retrieve _ _ _ => false
  | .destroy _ => false

/-- The failures that belong to some calls, given the declarations that the calls have tried to
build something from. -/
inductive FailuresOf (options : Options) :
    List Declaration → List (Call ι) → List Failure → Prop where
  | nil : FailuresOf options [] [] []
  | setting {call : Call ι} {attempted : List Declaration} {calls : List (Call ι)}
      {failures : List Failure} (harmless : call.isSetting = true)
      (tail : FailuresOf options attempted calls failures) :
      FailuresOf options attempted (call :: calls) failures
  | built {declaration : Declaration} {handle : ι} {attempted : List Declaration}
      {calls : List (Call ι)} {failures : List Failure}
      (tail : FailuresOf options attempted calls failures) :
      FailuresOf options (declaration :: attempted)
        (.construct declaration.resourceType declaration.attributes (.ok handle) :: calls) failures
  | failed {declaration : Declaration} {error : ConstructionError ι} {cleanup : Cleanup}
      {cleaning : List (Call ι)} {attempted : List Declaration} {calls : List (Call ι)}
      {failures : List Failure}
      (cleans : CleansUp declaration.identity error.remains cleanup cleaning)
      (tail : FailuresOf options attempted calls failures) :
      FailuresOf options (declaration :: attempted)
        (.construct declaration.resourceType declaration.attributes (.error error) ::
          (cleaning ++ calls))
        (⟨declaration.identity, declaration.location, error.message, cleanup,
          dumpOf options declaration⟩ :: failures)

namespace FailuresOf

variable {options : Options} {attempted attempted' : List Declaration}
  {calls calls' : List (Call ι)} {failures failures' : List Failure}

theorem append (first : FailuresOf options attempted calls failures)
    (second : FailuresOf options attempted' calls' failures') :
    FailuresOf options (attempted ++ attempted') (calls ++ calls') (failures ++ failures') := by
  induction first with
  | nil => exact second
  | setting harmless tail ih => exact .setting harmless ih
  | built tail ih => exact .built ih
  | failed cleans tail ih =>
      rw [List.cons_append, List.cons_append, List.cons_append, List.append_assoc]
      exact .failed cleans ih

theorem of_settings (harmless : ∀ call ∈ calls, call.isSetting = true) :
    FailuresOf options [] calls [] := by
  induction calls with
  | nil => exact .nil
  | cons call rest ih =>
      apply setting (harmless call List.mem_cons_self)
      apply ih
      intro call member
      exact harmless call (List.mem_cons_of_mem _ member)

end FailuresOf

/-- A step and the same step with a recording provider come to the same, and the calls and the
failures that they add belong together. What is attempted is among the declarations given. -/
def Recounts (options : Options) (declared : List Declaration)
    (step : Session σ → Outcome σ α)
    (recorded : Session (Recorded σ ι) → Outcome (Recorded σ ι) α) : Prop :=
  ∀ session calls, ∃ attempted made failed, attempted.Sublist declared ∧
    FailuresOf options attempted made failed ∧
    (step session).2.failures = session.failures ++ failed ∧
    recorded (session.recorded calls) =
      ((step session).1, (step session).2.recorded (calls ++ made))

namespace Recounts

variable {options : Options} {declared declared' : List Declaration}

theorem result (outcome : Except LoweringError α) :
    Recounts (ι := ι) options declared (fun session : Session σ => (outcome, session))
      fun session => (outcome, session) := by
  intro session calls
  refine ⟨[], [], [], List.nil_sublist declared, .nil, ?_, ?_⟩ <;> simp

theorem andThen {step : Session σ → Outcome σ α}
    {recorded : Session (Recorded σ ι) → Outcome (Recorded σ ι) α}
    {next : α → Session σ → Outcome σ β}
    {recordedNext : α → Session (Recorded σ ι) → Outcome (Recorded σ ι) β}
    (first : Recounts options declared step recorded)
    (second : ∀ content, Recounts options declared' (next content) (recordedNext content)) :
    Recounts options (declared ++ declared') (fun session => (step session).andThen next)
      fun session => (recorded session).andThen recordedNext := by
  intro session calls
  rcases first session calls with ⟨attempted, made, failed, within, related, kept, same⟩
  rcases ended : step session with ⟨fault | content, after⟩
  · rw [ended] at kept same
    refine ⟨attempted, made, failed, within.trans (List.sublist_append_left _ _), related, ?_, ?_⟩
    · simpa [ended, Outcome.andThen] using kept
    · simp [ended, same, Outcome.andThen]
  · rw [ended] at kept same
    replace kept : after.failures = session.failures ++ failed := kept
    rcases second content after (calls ++ made) with
      ⟨attempted', made', failed', within', related', kept', same'⟩
    refine ⟨attempted ++ attempted', made ++ made', failed ++ failed', within.append within',
      related.append related', ?_, ?_⟩
    · simp [ended, Outcome.andThen, kept, kept']
    · simp [ended, same, Outcome.andThen, same']

end Recounts

variable {provider : Provider σ ι} {options : Options}

theorem exists_cleaning_recordFailure (resourceType : ResourceType σ ι)
    (declaration : Declaration) (error : ConstructionError ι) (session : Session σ)
    (calls : List (Call ι)) :
    ∃ cleaning,
      CleansUp declaration.identity error.remains
        (recordFailure provider options resourceType declaration error session).1.cleanup
        cleaning ∧
      recordFailure provider.recording options
          (resourceType.recording declaration.resourceType) declaration error
          (session.recorded calls) =
        ((recordFailure provider options resourceType declaration error session).1,
          (recordFailure provider options resourceType declaration error session).2.recorded
            (calls ++ cleaning)) := by
  rcases exists_cleanUp_recorded provider resourceType declaration.identity error.remains
    (.start session.world) calls with ⟨cleaning, cleans, same⟩
  replace same : cleanUp provider.recording
    (resourceType.recording declaration.resourceType) declaration.identity error.remains
      (.start (session.recorded calls).world) = _ := same
  rw [recordFailure_eq, recordFailure_eq]
  simp only [same]
  exact ⟨cleaning, cleans, rfl⟩

theorem recounts_resolveDeclaration (declaration : Declaration) :
    Recounts options [declaration]
      (fun session => resolveDeclaration provider options declaration session)
      fun session => resolveDeclaration provider.recording options declaration session := by
  intro session calls
  cases known : provider.lookup declaration.resourceType with
  | none =>
      have missing : provider.recording.lookup declaration.resourceType = none := by
        simp [Provider.recording, known]
      simp only [resolveDeclaration, known, missing]
      exact Recounts.result _ session calls
  | some resourceType =>
      have found := lookup_recording known
      rcases constructed : resourceType.construct declaration.attributes session.world with
        ⟨error | handle, world⟩
      · have refused := construct_recording constructed declaration.resourceType calls
        rcases @exists_cleaning_recordFailure _ _ provider options resourceType declaration error
          (session.inWorld world)
          (calls ++ [.construct declaration.resourceType declaration.attributes (.error error)])
          with ⟨cleaning, cleans, same⟩
        have made := @recordFailure_eq _ _ provider options resourceType declaration error
          (session.inWorld world)
        refine ⟨[declaration],
          .construct declaration.resourceType declaration.attributes (.error error) ::
            (cleaning ++ []),
          [(recordFailure provider options resourceType declaration error
            (session.inWorld world)).1], List.Sublist.refl _, ?_, ?_, ?_⟩
        · rw [made] at cleans ⊢
          exact .failed cleans .nil
        · simp only [resolveDeclaration, known, constructed]
          rw [made]
          rfl
        · replace refused : (resourceType.recording declaration.resourceType).construct
            declaration.attributes (session.recorded calls).world = _ := refused
          replace same : recordFailure provider.recording options
            (resourceType.recording declaration.resourceType) declaration error
              ((session.recorded calls).inWorld ⟨world, calls ++ [.construct
                declaration.resourceType declaration.attributes (.error error)]⟩) = _ := same
          simp only [resolveDeclaration, known, found, constructed, refused, same]
          simp
      · have built := construct_recording constructed declaration.resourceType calls
        rcases moved : provider.operations.setLocation handle declaration.location world with
          ⟨located, after⟩
        have recorded := setLocation_recording moved
          (calls ++ [.construct declaration.resourceType declaration.attributes (.ok handle)])
        refine ⟨[declaration],
          [.construct declaration.resourceType declaration.attributes (.ok handle),
            .setLocation handle declaration.location], [], List.Sublist.refl _, ?_, ?_, ?_⟩
        · exact .built (.setting rfl .nil)
        · simp [resolveDeclaration, known, constructed, moved, Session.inWorld]
        · replace built : (resourceType.recording declaration.resourceType).construct
            declaration.attributes (session.recorded calls).world = _ := built
          simp only [resolveDeclaration, known, found, constructed, built, moved, recorded]
          simp [Session.inWorld, Session.recorded]

theorem recounts_placeDeclaration (scope : String) (declaration : Declaration)
    (contents : Contents ι) :
    Recounts options [declaration]
      (fun session => placeDeclaration provider options scope declaration contents session)
      fun session =>
        placeDeclaration provider.recording options scope declaration contents session := by
  cases kept : contents.positions.get? declaration.identity with
  | none =>
      simp only [placeDeclaration, kept]
      rw [← List.append_nil [declaration]]
      apply (recounts_resolveDeclaration declaration).andThen
      intro resolution
      cases resolution with
      | realized resource => exact .result _
      | failed failure => exact .result _
  | some position =>
      intro session calls
      simp only [placeDeclaration, kept]
      split
      · next existing _ =>
          rcases exists_mergeAttributes_recorded provider existing.identity
            declaration.attributes.entries existing.handle session calls with ⟨made, sets, same⟩
          refine ⟨[], made, [], List.nil_sublist _, ?_, ?_, ?_⟩
          · apply FailuresOf.of_settings
            intro call member
            rcases sets call member with ⟨handle, key, value, rfl⟩
            rfl
          · simp [mergeInto, mergeAttributes_failures]
          · simp [mergeInto, same]
      · exact Recounts.result _ session calls

theorem recounts_resolveScope_of_children {scope : Scope}
    (within : ∀ name, Recounts options (Scope.declarationsIn scope.children)
      (fun session => resolveChildren provider options name scope.children .empty session)
      fun session =>
        resolveChildren provider.recording options name scope.children .empty session) :
    Recounts options scope.declarations
      (fun session => resolveScope provider options scope session)
      fun session => resolveScope provider.recording options scope session := by
  rcases scope with ⟨name, scopeType, location, defaults, children⟩
  cases name with
  | none => exact .result _
  | some name =>
      simp only [resolveScope_named, Scope.declarations]
      have whole : Recounts options (Scope.declarationsIn children)
          (fun session : Session σ => resolveChildren provider options name children .empty
            (session.noteAll (openingEvents name scopeType defaults)))
          fun session => resolveChildren provider.recording options name children .empty
            (session.noteAll (openingEvents name scopeType defaults)) := by
        intro session calls
        exact within name (session.noteAll (openingEvents name scopeType defaults)) calls
      rw [← List.append_nil (Scope.declarationsIn children)]
      exact whole.andThen fun contents => .result _

theorem recounts_resolveChildren (scope : String) (children : List Child)
    (contents : Contents ι) :
    Recounts options (Scope.declarationsIn children)
      (fun session => resolveChildren provider options scope children contents session)
      fun session =>
        resolveChildren provider.recording options scope children contents session := by
  induction children using Scope.children_induction generalizing scope contents with
  | nil =>
      simp only [resolveChildren]
      exact .result _
  | declaration declaration rest ih =>
      simp only [resolveChildren, Scope.declarationsIn]
      rw [← List.singleton_append]
      apply (recounts_placeDeclaration scope declaration contents).andThen
      intro next
      exact ih scope next
  | scope nested rest ihNested ihRest =>
      simp only [resolveChildren, Scope.declarationsIn]
      have inside := recounts_resolveScope_of_children fun name => ihNested name .empty
      apply inside.andThen
      intro container
      exact ihRest scope (contents.addContainer container)

/-- The failures that lowering a scope keeps, be it to the end or to a fatal error, are those of the
calls that it makes. -/
theorem recounts_resolveScope (scope : Scope) :
    Recounts options scope.declarations
      (fun session => resolveScope provider options scope session)
      fun session => resolveScope provider.recording options scope session := by
  apply recounts_resolveScope_of_children
  intro name
  exact recounts_resolveChildren name scope.children .empty

/-- The failures that a run has kept. If it has ended with a fatal error, nobody has taken them. -/
def keptFailures : Outcome σ (Lowered ι) → List Failure
  | (.ok lowered, _) => lowered.failures
  | (.error _, session) => session.failures

/-- The failures that a run on a tree has kept, however it ended, are those of its calls. -/
theorem exists_failuresOf_lower (provider : Provider σ ι) (options : Options) (scope : Scope)
    (world : σ) :
    ∃ attempted, attempted.Sublist scope.declarations ∧
      FailuresOf options attempted (callsOf provider options scope world)
        (keptFailures (lower provider options scope world)) := by
  rcases @recounts_resolveScope _ _ provider options scope (.start world) []
    with ⟨attempted, made, failed, within, related, kept, recorded⟩
  refine ⟨attempted, within, ?_⟩
  replace recorded : resolveScope provider.recording options scope (.start ⟨world, []⟩) = _ :=
    recorded
  dsimp only at kept recorded
  rcases ended : resolveScope provider options scope (.start world) with ⟨fault | root, after⟩
  · rw [ended] at kept recorded
    replace kept : after.failures = failed := kept
    simp only [callsOf, lower, recorded, ended, Outcome.andThen, keptFailures, kept]
    exact related
  · rw [ended] at kept recorded
    replace kept : after.failures = failed := kept
    simp only [callsOf, lower, recorded, ended, Outcome.andThen, keptFailures,
      Session.takeFailures, kept]
    exact related

end Manifest
