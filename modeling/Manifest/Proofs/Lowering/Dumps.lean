import Manifest.Proofs.Lowering.Lockstep
import Manifest.Proofs.Lowering.Recounting

/-!
# Dumps

To ask for dumps changes nothing but dumps. The run that gives them goes in lockstep with the one
that does not: both make the same calls in the same worlds and build the same instances, and they
keep the same failures but for the dump. In the log there is one more line for each failure, in
front of all other lines of that failure (`DumpsAdded`).
-/

namespace Manifest

variable {σ ι : Type}

def Failure.withoutDump (failure : Failure) : Failure :=
  { failure with dump := none }

/-- The second log is the first one with the dump of each failure in front of the other lines of the
failure. The lines of failures are the only ones that report errors. -/
inductive DumpsAdded : List Failure → List LogEvent → List LogEvent → Prop where
  | nil : DumpsAdded [] [] []
  | other {event : LogEvent} {failures : List Failure} {plain dumped : List LogEvent}
      (harmless : event.level = .debug) (tail : DumpsAdded failures plain dumped) :
      DumpsAdded failures (event :: plain) (event :: dumped)
  | failure {failure : Failure} {text : String} {failures : List Failure}
      {plain dumped : List LogEvent} (dump : failure.dump = some text)
      (tail : DumpsAdded failures plain dumped) :
      DumpsAdded (failure :: failures) (failure.events ++ plain)
        (.failedDeclaration failure.identity text :: (failure.events ++ dumped))

namespace DumpsAdded

variable {failures failures' : List Failure} {plain plain' dumped dumped' : List LogEvent}

theorem append (first : DumpsAdded failures plain dumped)
    (second : DumpsAdded failures' plain' dumped') :
    DumpsAdded (failures ++ failures') (plain ++ plain') (dumped ++ dumped') := by
  induction first with
  | nil => exact second
  | other harmless tail ih => exact .other harmless ih
  | failure dump tail ih =>
      simp only [List.cons_append, List.append_assoc]
      exact .failure dump ih

theorem of_debug {events : List LogEvent} (harmless : ∀ event ∈ events, event.level = .debug) :
    DumpsAdded [] events events := by
  induction events with
  | nil => exact .nil
  | cons event rest ih =>
      apply other (harmless event List.mem_cons_self)
      apply ih
      intro event member
      exact harmless event (List.mem_cons_of_mem _ member)

theorem append_debug (first : DumpsAdded failures plain dumped) {events : List LogEvent}
    (harmless : ∀ event ∈ events, event.level = .debug) :
    DumpsAdded failures (plain ++ events) (dumped ++ events) := by
  have extended := first.append (of_debug harmless)
  rwa [List.append_nil] at extended

end DumpsAdded

theorem level_openingEvents {name : String} {scopeType : Option String}
    {defaults : Option Attributes} {event : LogEvent}
    (member : event ∈ openingEvents name scopeType defaults) : event.level = .debug := by
  rw [LogEvent.level_eq_debug_iff, topic_openingEvents member]
  decide

theorem level_mergingEvents {identity : Identity} {entries : List (String × Value)}
    {event : LogEvent} (member : event ∈ mergingEvents identity entries) :
    event.level = .debug := by
  rw [LogEvent.level_eq_debug_iff, topic_mergingEvents member]
  decide

/-- Two runs are alike if they do the same and only the second one gives dumps. -/
def Coupling.dumping (σ ι : Type) : Coupling σ ι where
  declarations := Eq
  mappings := Eq
  instances := Eq
  failures plain dumped := plain = dumped.withoutDump
  sessions plain dumped :=
    plain.world = dumped.world ∧ plain.failures = dumped.failures.map Failure.withoutDump ∧
      DumpsAdded dumped.failures plain.log dumped.log

/-- The failure that is recorded with dumps is the one without, and the second log gets its dump and
all lines that the first one gets. -/
theorem dumping_recordFailure {options : Options} {session session' : Session σ}
    (met : (Coupling.dumping σ ι).sessions session session') (provider : Provider σ ι)
    (resourceType : ResourceType σ ι) (declaration : Declaration) (error : ConstructionError ι) :
    let plain := recordFailure provider (options.withDebug false) resourceType declaration error
      session
    let dumped := recordFailure provider (options.withDebug true) resourceType declaration error
      session'
    plain.1 = dumped.1.withoutDump ∧ (Coupling.dumping σ ι).sessions plain.2 dumped.2 := by
  rcases met with ⟨worlds, failures, logs⟩
  simp only [recordFailure_eq, worlds]
  generalize cleanUp provider resourceType declaration.identity error.remains
    (.start session'.world) = cleaned
  let failure : Failure := ⟨declaration.identity, declaration.location, error.message, cleaned.1,
    some declaration.display⟩
  have added : DumpsAdded [failure] (failure.events ++ [])
      (.failedDeclaration failure.identity declaration.display :: (failure.events ++ [])) :=
    .failure rfl .nil
  refine ⟨rfl, rfl, ?_, ?_⟩
  · simp [Session.followedBy, failures, Failure.withoutDump, dumpOf, Options.withDebug]
  · have extended := logs.append added
    rw [List.append_nil] at extended
    exact extended

theorem lockstep_dumping (provider : Provider σ ι) (options : Options) :
    Lockstep provider (options.withDebug false) (options.withDebug true) (.dumping σ ι) where
  identity_eq same := by rw [same]
  seeds same name scopeType := by rw [Option.Rel.eq_of_eq same]; rfl
  opens same met name scopeType := by
    rcases met with ⟨worlds, failures, logs⟩
    rw [Option.Rel.eq_of_eq same]
    exact ⟨worlds, failures, logs.append_debug fun event => level_openingEvents⟩
  resolves {declaration _ session session'} same met := by
    subst same
    rcases met with ⟨worlds, failures, logs⟩
    cases known : provider.lookup declaration.resourceType with
    | none =>
        simp only [resolveDeclaration, known]
        exact .failed ⟨worlds, failures, logs⟩
    | some resourceType =>
        rcases constructed : resourceType.construct declaration.attributes session'.world with
          ⟨error | handle, world⟩
        · simp only [resolveDeclaration, known, worlds, constructed]
          have moved : (Coupling.dumping σ ι).sessions (session.inWorld world)
              (session'.inWorld world) := ⟨rfl, failures, logs⟩
          rcases dumping_recordFailure moved provider resourceType declaration error with
            ⟨same, recorded⟩
          exact .done (.failed same) recorded
        · simp only [resolveDeclaration, known, worlds, constructed]
          exact .done (.realized rfl) ⟨rfl, failures, logs⟩
  merges {declaration _ handle _ session session'} same sameHandle met identity := by
    subst same sameHandle
    rcases met with ⟨worlds, failures, logs⟩
    rw [mergeAttributes_eq, mergeAttributes_eq identity declaration.attributes.entries handle
      session', worlds]
    refine ⟨rfl, rfl, ?_, ?_⟩
    · simpa [Session.followedBy] using failures
    · simpa [Session.followedBy] using logs.append_debug fun event => level_mergingEvents

/-- A run that gives dumps and one that does not end in sessions that are alike, and return the same
fatal error or the same tree. -/
theorem related_lower_withDebug (provider : Provider σ ι) (options : Options) (scope : Scope)
    (world : σ) :
    let plain := lower provider (options.withDebug false) scope world
    let dumped := lower provider (options.withDebug true) scope world
    plain.1.map Lowered.root = dumped.1.map Lowered.root ∧
      plain.2.world = dumped.2.world ∧
      keptFailures plain = (keptFailures dumped).map Failure.withoutDump ∧
      DumpsAdded (keptFailures dumped) plain.2.log dumped.2.log := by
  have parallel : Parallel (Coupling.dumping σ ι).declarations (Coupling.dumping σ ι).mappings
      [.scope scope] [.scope scope] := .refl (fun _ => rfl) (fun _ => rfl) _
  have started : (Coupling.dumping σ ι).sessions (.start world) (.start world) :=
    ⟨rfl, rfl, .nil⟩
  have related := (lockstep_dumping provider options).resolveScope parallel started
  generalize plain : resolveScope provider (options.withDebug false) scope (.start world) = ended
    at related
  generalize dumped : resolveScope provider (options.withDebug true) scope (.start world) = ended'
    at related
  simp only [lower, plain, dumped]
  cases related with
  | failed met => exact ⟨rfl, met⟩
  | done same met =>
      refine ⟨?_, met⟩
      rw [same.eq]
      rfl

/-- To ask for dumps changes nothing but dumps. The runs return the same fatal error or the same
tree, make the same calls and end in the same world. Without dumps the failures are the same but
have none, with dumps each has the written form of its declaration, and the log has one more line in
front of those of each failure. -/
theorem lower_withDebug (provider : Provider σ ι) (options : Options) (scope : Scope) (world : σ) :
    let plain := lower provider (options.withDebug false) scope world
    let dumped := lower provider (options.withDebug true) scope world
    plain.1.map Lowered.root = dumped.1.map Lowered.root ∧
      plain.2.world = dumped.2.world ∧
      callsOf provider (options.withDebug false) scope world =
        callsOf provider (options.withDebug true) scope world ∧
      keptFailures plain = (keptFailures dumped).map Failure.withoutDump ∧
      (∃ attempted, attempted.Sublist scope.declarations ∧
        FailuresOf (options.withDebug true) attempted
          (callsOf provider (options.withDebug true) scope world) (keptFailures dumped)) ∧
      DumpsAdded (keptFailures dumped) plain.2.log dumped.2.log := by
  rcases related_lower_withDebug provider options scope world with ⟨root, worlds, failures, logs⟩
  have recorded := related_lower_withDebug provider.recording options scope ⟨world, []⟩
  refine ⟨root, worlds, ?_, failures, ?_, logs⟩
  · rw [callsOf, callsOf, recorded.2.1]
  · exact exists_failuresOf_lower provider (options.withDebug true) scope world

end Manifest
