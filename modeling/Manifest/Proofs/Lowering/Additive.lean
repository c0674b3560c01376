import Manifest.Proofs.Lowering.Transcript

/-!
# Steps add to a session

No step of lowering looks at the failures or at the log that a session holds already. What a step
does in a session is what it does in a new one in the same world, with the new failures and the new
lines of the log behind those that were there (`Additive`). So there is no need to speak of more
than new sessions: `additive_resolveScope` says that lowering a scope, be it to the end or to a
fatal error, depends on nothing that an earlier scope has left but the world.

Of what is recorded about a failure, the world decides no more than whether an instance is found
under its name (`withoutRetrieval_cleanUp`).
-/

namespace Manifest

variable {σ ι α β : Type} {provider : Provider σ ι} {options : Options}

namespace Session

/-- A session in which there has been added what another session holds. -/
def followedBy (session added : Session σ) : Session σ :=
  ⟨added.world, session.failures ++ added.failures, session.log ++ added.log⟩

/-- What a step has come to, if it was taken in a session and not in a new one. -/
def resume (session : Session σ) (result : α × Session σ) : α × Session σ :=
  (result.1, session.followedBy result.2)

@[simp]
theorem followedBy_start (session : Session σ) (world : σ) :
    session.followedBy (.start world) = session.inWorld world := by
  simp [followedBy, start, inWorld]

theorem followedBy_assoc (first second third : Session σ) :
    (first.followedBy second).followedBy third = first.followedBy (second.followedBy third) := by
  simp [followedBy]

@[simp]
theorem world_followedBy (session added : Session σ) :
    (session.followedBy added).world = added.world := rfl

@[simp]
theorem inWorld_world (session : Session σ) : session.inWorld session.world = session := rfl

def noteAll (session : Session σ) (events : List LogEvent) : Session σ :=
  { session with log := session.log ++ events }

end Session

/-- A step does in every session what it does in a new one, and adds it to what is there. -/
def Additive (step : Session σ → α × Session σ) : Prop :=
  ∀ session, step session = session.resume (step (.start session.world))

namespace Additive

theorem result (content : α) : Additive fun session : Session σ => (content, session) := by
  intro session
  simp [Session.resume]

/-- What is done in a session that has been added to is added as well. -/
theorem followedBy {step : Session σ → α × Session σ} (additive : Additive step)
    (session added : Session σ) :
    step (session.followedBy added) = session.resume (step added) := by
  rw [additive (session.followedBy added), additive added]
  simp [Session.resume, Session.followedBy_assoc]

theorem andThen {step : Session σ → Outcome σ α} {next : α → Session σ → Outcome σ β}
    (first : Additive step) (second : ∀ content, Additive (next content)) :
    Additive fun session => (step session).andThen next := by
  intro session
  rcases ended : step (.start session.world) with ⟨fault | content, after⟩
  · simp [first session, ended, Session.resume, Outcome.andThen]
  · simp only [first session, ended, Session.resume, Outcome.andThen]
    exact (second content).followedBy session after

end Additive

/-! ### Lines of the log -/

/-- What a line of the log is about. -/
inductive LogEvent.Topic where
  | opening
  | merging
  | failing
  deriving DecidableEq

namespace LogEvent

def topic : LogEvent → Topic
  | .scopeWithoutType _ => .opening
  | .scopeWithoutDefaults _ => .opening
  | .definingDefault _ _ => .opening
  | .mergingAttribute _ _ => .merging
  | .failedDeclaration _ _ => .failing
  | .destroyingPartial _ => .failing
  | .destroyingRetrieved _ => .failing
  | .couldNotCreate _ _ _ => .failing

theorem level_eq_error_iff (event : LogEvent) : event.level = .error ↔ event.topic = .failing := by
  cases event <;> simp [level, topic]

theorem level_eq_debug_iff (event : LogEvent) : event.level = .debug ↔ event.topic ≠ .failing := by
  cases event <;> simp [level, topic]

end LogEvent

/-! ### Merging and cleaning up -/

def mergingEvents (identity : Identity) (entries : List (String × Value)) : List LogEvent :=
  (entries.filter fun entry => entry.1 ≠ Attributes.nameKey).map fun entry =>
    .mergingAttribute identity entry.1

theorem topic_openingEvents {name : String} {scopeType : Option String}
    {defaults : Option Attributes} {event : LogEvent}
    (member : event ∈ openingEvents name scopeType defaults) : event.topic = .opening := by
  unfold openingEvents at member
  rcases List.mem_append.1 member with typeless | described
  · split at typeless
    · rw [List.mem_singleton] at typeless
      rw [typeless]
      rfl
    · simp at typeless
  · cases defaults with
    | none =>
        rw [List.mem_singleton] at described
        rw [described]
        rfl
    | some defaults =>
        rcases List.mem_map.1 described with ⟨entry, _, rfl⟩
        rfl

theorem topic_mergingEvents {identity : Identity} {entries : List (String × Value)}
    {event : LogEvent} (member : event ∈ mergingEvents identity entries) :
    event.topic = .merging := by
  rcases List.mem_map.1 member with ⟨entry, _, rfl⟩
  rfl

/-- Merging attributes keeps no failure and writes a line for each of them but the name. -/
theorem mergeAttributes_eq (identity : Identity) (entries : List (String × Value)) (handle : ι)
    (session : Session σ) :
    mergeAttributes provider identity entries handle session =
      let merged := mergeAttributes provider identity entries handle (.start session.world)
      (merged.1, session.followedBy ⟨merged.2.world, [], mergingEvents identity entries⟩) := by
  induction entries generalizing handle session with
  | nil => simp [mergeAttributes, mergingEvents, Session.followedBy, Session.start]
  | cons entry rest ih =>
      rcases entry with ⟨key, value⟩
      by_cases fixed : key = Attributes.nameKey
      · have later := ih handle session
        simpa [mergeAttributes, mergingEvents, fixed] using later
      · rcases changed : provider.operations.setAttribute handle key value session.world with
          ⟨next, world⟩
        have here := ih next ((session.note (.mergingAttribute identity key)).inWorld world)
        have there := ih next
          (((Session.start session.world).note (.mergingAttribute identity key)).inWorld world)
        have known : (Session.start session.world).world = session.world := rfl
        simp only [mergeAttributes, fixed, if_false, changed, known, here, there]
        simp [mergingEvents, fixed, Session.followedBy, Session.note, Session.inWorld]

/-- The line that cleaning up in some way adds to the log. -/
def Cleanup.events (identity : Identity) : Cleanup → List LogEvent
  | .destroyedPartial => [.destroyingPartial identity]
  | .destroyedRetrieved => [.destroyingRetrieved identity]
  | .nothing => []

/-- Cleaning up keeps no failure and writes a line if something was destroyed. -/
theorem cleanUp_eq (resourceType : ResourceType σ ι) (identity : Identity) (remains : Option ι)
    (session : Session σ) :
    cleanUp provider resourceType identity remains session =
      let cleaned := cleanUp provider resourceType identity remains (.start session.world)
      (cleaned.1, session.followedBy ⟨cleaned.2.world, [], cleaned.1.events identity⟩) := by
  cases remains with
  | some handle =>
      simp [cleanUp, Cleanup.events, Session.followedBy, Session.note, Session.inWorld,
        Session.start]
  | none =>
      rcases found : resourceType.retrieve identity.name session.world with
        ⟨kept | handle, world⟩ <;>
        simp [cleanUp, Cleanup.events, Session.followedBy, Session.note, Session.inWorld,
          Session.start, found]

namespace Failure

def dumpEvents (failure : Failure) : List LogEvent :=
  failure.dump.toList.map (.failedDeclaration failure.identity)

/-- All other lines that a failure leaves in the log. -/
def events (failure : Failure) : List LogEvent :=
  failure.cleanup.events failure.identity ++
    [.couldNotCreate failure.identity failure.location failure.cause]

end Failure

/-- Recording a failure adds it and its lines of the log. -/
theorem recordFailure_eq (resourceType : ResourceType σ ι) (declaration : Declaration)
    (error : ConstructionError ι) (session : Session σ) :
    recordFailure provider options resourceType declaration error session =
      let cleaned := cleanUp provider resourceType declaration.identity error.remains
        (.start session.world)
      let failure : Failure := ⟨declaration.identity, declaration.location, error.message,
        cleaned.1, dumpOf options declaration⟩
      (failure, session.followedBy
        ⟨cleaned.2.world, [failure], failure.dumpEvents ++ failure.events⟩) := by
  cases debug : options.debug
  · rw [recordFailure, cleanUp_eq]
    simp [dumpOf, debug, Failure.dumpEvents, Failure.events, Session.followedBy, Session.note,
      Session.addFailure]
  · rw [recordFailure, cleanUp_eq]
    simp [dumpOf, debug, Failure.dumpEvents, Failure.events, Session.followedBy, Session.note,
      Session.addFailure]

/-! ### What the world decides about a failure -/

/-- The cleaning up, if it does not count whether an instance was found under the name. -/
def Cleanup.withoutRetrieval : Cleanup → Cleanup
  | .destroyedPartial => .destroyedPartial
  | .destroyedRetrieved => .nothing
  | .nothing => .nothing

def Failure.withoutRetrieval (failure : Failure) : Failure :=
  { failure with cleanup := failure.cleanup.withoutRetrieval }

theorem withoutRetrieval_cleanUp (resourceType : ResourceType σ ι) (identity : Identity)
    (remains : Option ι) (session : Session σ) :
    (cleanUp provider resourceType identity remains session).1.withoutRetrieval =
      if remains.isSome then .destroyedPartial else .nothing := by
  cases remains with
  | some handle => rfl
  | none =>
      simp only [cleanUp]
      split <;> rfl

/-! ### Declarations and scopes -/

theorem additive_resolveDeclaration (declaration : Declaration) :
    Additive fun session => resolveDeclaration provider options declaration session := by
  intro session
  cases known : provider.lookup declaration.resourceType with
  | none => simp [resolveDeclaration, known, Session.resume]
  | some resourceType =>
      have started : (Session.start session.world).world = session.world := rfl
      rcases constructed : resourceType.construct declaration.attributes session.world with
        ⟨error | handle, world⟩
      · simp only [resolveDeclaration, known, started, constructed, recordFailure_eq]
        simp [Session.resume, Session.followedBy, Session.inWorld, Session.start]
      · simp [resolveDeclaration, known, constructed, Session.resume, Session.inWorld,
          Session.followedBy, Session.start]

theorem additive_placeDeclaration (scope : String) (declaration : Declaration)
    (contents : Contents ι) :
    Additive fun session =>
      placeDeclaration provider options scope declaration contents session := by
  cases kept : contents.positions.get? declaration.identity with
  | none =>
      simp only [placeDeclaration, kept]
      apply (additive_resolveDeclaration declaration).andThen
      intro resolution
      cases resolution with
      | realized resource => exact .result _
      | failed failure => exact .result _
  | some position =>
      intro session
      simp only [placeDeclaration, kept]
      split
      · simp only [mergeInto]
        rw [mergeAttributes_eq]
        rw [mergeAttributes_eq _ _ _ (.start session.world)]
        simp [Session.resume, Session.followedBy, Session.start]
      · exact Additive.result _ session

/-- A scope with a name is lowered by opening its container and filling it. -/
theorem resolveScope_named (name : String) (scopeType : Option String) (location : Location)
    (defaults : Option Attributes) (children : List Child) (session : Session σ) :
    resolveScope provider options ⟨some name, scopeType, location, defaults, children⟩ session =
      (resolveChildren provider options name children .empty
          (session.noteAll (openingEvents name scopeType defaults))).andThen
        fun contents after =>
          (.ok ⟨name, scopeType, location, seedAttributes name scopeType defaults,
            contents.children⟩, after) := by
  rw [resolveScope, Session.noteAll, ← openContainer_snd,
    ← openContainer_fst name scopeType defaults session]

theorem additive_resolveScope_of_children {scope : Scope}
    (within : ∀ name, Additive fun session =>
      resolveChildren provider options name scope.children .empty session) :
    Additive fun session => resolveScope provider options scope session := by
  rcases scope with ⟨name, scopeType, location, defaults, children⟩
  cases name with
  | none => exact .result _
  | some name =>
      simp only [resolveScope_named]
      refine Additive.andThen ?_ fun contents => .result _
      intro session
      -- the lines of opening are in the log before the children are lowered
      have opened := (within name).followedBy session
        ⟨session.world, [], openingEvents name scopeType defaults⟩
      simpa [Session.followedBy, Session.noteAll, Session.start] using opened

theorem additive_resolveChildren (scope : String) (children : List Child)
    (contents : Contents ι) :
    Additive fun session => resolveChildren provider options scope children contents session := by
  induction children using Scope.children_induction generalizing scope contents with
  | nil =>
      simp only [resolveChildren]
      exact .result _
  | declaration declaration rest ih =>
      simp only [resolveChildren]
      apply (additive_placeDeclaration scope declaration contents).andThen
      intro next
      exact ih scope next
  | scope nested rest ihNested ihRest =>
      simp only [resolveChildren]
      have inside := additive_resolveScope_of_children fun name => ihNested name .empty
      apply inside.andThen
      intro container
      exact ihRest scope (contents.addContainer container)

/-- Lowering a scope depends on nothing in a session but the world. -/
theorem additive_resolveScope (scope : Scope) :
    Additive fun session => resolveScope provider options scope session := by
  apply additive_resolveScope_of_children
  intro name
  exact additive_resolveChildren name scope.children .empty

end Manifest
