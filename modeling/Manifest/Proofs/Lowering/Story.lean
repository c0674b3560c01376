import Manifest.Proofs.Lowering.Abort
import Manifest.Proofs.Lowering.Accounting
import Manifest.Proofs.Lowering.Recounting
import Manifest.Proofs.Lowering.Seeding

/-!
# What the log tells

The lines that a run writes can be told from its history and from the failures that it has kept
(`Told`), so that either of these can be read off the log: the failures from the lines that announce
them and the lines right before those (`Announces`), and what was merged and which scopes were
opened from the lines about these (`Told.filter_topic`).

A run that is cut short by a fatal error has the history of the part of the tree that it has reached
(`Reached`). This is the tree up to the first fault, on which a run ends well and in the same
session (`stopsAtFault`).
-/

namespace Manifest

variable {σ ι : Type}

/-! ### Lines of a log -/

namespace LogEvent

/-- Whether a line says that something is destroyed. -/
def isCleanup : LogEvent → Bool
  | .scopeWithoutType _ => false
  | .scopeWithoutDefaults _ => false
  | .definingDefault _ _ => false
  | .mergingAttribute _ _ => false
  | .failedDeclaration _ _ => false
  | .destroyingPartial _ => true
  | .destroyingRetrieved _ => true
  | .couldNotCreate _ _ _ => false

theorem message_eq_merging_iff (event : LogEvent) :
    event.message = "merging attribute" ↔ event.topic = .merging := by
  cases event <;> simp [message, topic]

theorem message_mem_opening_iff (event : LogEvent) :
    event.message ∈
        ["scope has no type", "scope has no default attributes", "defining scope default"] ↔
      event.topic = .opening := by
  cases event <;> simp [message, topic]

theorem map_message_ne_of_isCleanup {line : Option LogEvent}
    (harmless : line.any isCleanup = false) :
    line.map message ≠ some "destroying partially built resource" ∧
      line.map message ≠ some "destroying retrieved resource" := by
  cases line with
  | none => simp
  | some event => cases event <;> simp_all [isCleanup, message]

end LogEvent

theorem filter_topic_of_forall {events : List LogEvent} {topic : LogEvent.Topic}
    (about : ∀ event ∈ events, event.topic = topic) (asked : LogEvent.Topic) :
    (events.filter fun event => event.topic = asked) = if topic = asked then events else [] := by
  split
  · next same =>
      rw [List.filter_eq_self]
      intro event member
      simp [about event member, same]
  · next other =>
      rw [List.filter_eq_nil_iff]
      intro event member
      simp [about event member, other]

/-- All lines that a failure leaves in the log. -/
def Failure.lines (failure : Failure) : List LogEvent :=
  failure.dumpEvents ++ failure.events

theorem Failure.topic_lines {failure : Failure} {event : LogEvent}
    (member : event ∈ failure.lines) : event.topic = .failing := by
  rcases List.mem_append.1 member with dumped | written
  · rcases List.mem_map.1 dumped with ⟨text, _, rfl⟩
    rfl
  · rcases List.mem_append.1 written with cleaned | refused
    · cases cleanup : failure.cleanup <;>
        simp only [cleanup, Cleanup.events, List.mem_singleton, List.not_mem_nil] at cleaned
      · rw [cleaned]
        rfl
      · rw [cleaned]
        rfl
    · rw [List.mem_singleton] at refused
      rw [refused]
      rfl

/-! ### The lines of a history -/

/-- The lines that are written and the failures that are kept in the course of a history. -/
inductive Told (options : Options) : History → List Failure → List LogEvent → Prop where
  | nil : Told options .nil [] []
  | built {declaration : Declaration} {rest : History} {failures : List Failure}
      {events : List LogEvent} (tail : Told options rest failures events) :
      Told options (.entry declaration .built rest) failures events
  | failed {declaration : Declaration} {rest : History} {failure : Failure}
      {failures : List Failure} {events : List LogEvent}
      (dump : failure.dump = dumpOf options declaration)
      (tail : Told options rest failures events) :
      Told options (.entry declaration .failed rest) (failure :: failures)
        (failure.lines ++ events)
  | merged {declaration : Declaration} {rest : History} {failures : List Failure}
      {events : List LogEvent} (tail : Told options rest failures events) :
      Told options (.entry declaration .merged rest) failures
        (mergingEvents declaration.identity declaration.attributes.entries ++ events)
  | nested {name : String} {scopeType : Option String} {location : Location}
      {defaults : Option Attributes} {inner rest : History} {failed failures : List Failure}
      {inside events : List LogEvent} (within : Told options inner failed inside)
      (tail : Told options rest failures events) :
      Told options (.nested name scopeType location defaults inner rest) (failed ++ failures)
        (openingEvents name scopeType defaults ++ (inside ++ events))

variable {provider : Provider σ ι} {options : Options}

theorem exists_lines_recordFailure (resourceType : ResourceType σ ι) (declaration : Declaration)
    (error : ConstructionError ι) (session : Session σ) :
    ∃ failure : Failure, failure.dump = dumpOf options declaration ∧
      (recordFailure provider options resourceType declaration error session).2.failures =
        session.failures ++ [failure] ∧
      (recordFailure provider options resourceType declaration error session).2.log =
        session.log ++ failure.lines := by
  rw [recordFailure_eq]
  exact ⟨_, rfl, rfl, rfl⟩

theorem log_mergeInto (scope : String) (existing : RealizedResource ι) (declaration : Declaration)
    (session : Session σ) :
    (mergeInto provider scope existing declaration session).2.log =
      session.log ++ mergingEvents existing.identity declaration.attributes.entries := by
  rw [mergeInto, mergeAttributes_eq]
  rfl

/-- What a filling adds to the failures and to the log is told by its history. -/
theorem Filling.exists_told {scope : String} {history : History} {contents final : Contents ι}
    {session last : Session σ}
    (filling : Filling provider options scope history contents session final last)
    (indexed : contents.Indexed) :
    ∃ failures events, Told options history failures events ∧
      last.failures = session.failures ++ failures ∧ last.log = session.log ++ events := by
  induction filling with
  | nil => exact ⟨[], [], .nil, (List.append_nil _).symm, (List.append_nil _).symm⟩
  | @entry _ declaration _ _ _ _ _ session _ _ placement tail ih =>
      rcases ih (placement.indexed indexed) with ⟨failures, events, told, kept, noted⟩
      cases placement with
      | built fresh known constructed moved => exact ⟨failures, events, .built told, kept, noted⟩
      | @failed resourceType error world fresh known refused =>
          rcases @exists_lines_recordFailure _ _ provider options resourceType declaration error
            (session.inWorld world) with ⟨failure, dump, added, written⟩
          refine ⟨failure :: failures, failure.lines ++ events, .failed dump told, ?_, ?_⟩
          · rw [kept, added, List.append_assoc]
            rfl
          · rw [noted, written, List.append_assoc]
            rfl
      | @merged position existing found there =>
          -- the lines bear the identity of the resource, which is that of the declaration
          have same : existing.identity = declaration.identity := by
            rcases (indexed declaration.identity position).1 found with ⟨resource, here, same⟩
            rw [there, Option.some.injEq, RealizedChild.resource.injEq] at here
            rw [here, same]
          rw [log_mergeInto, same] at noted
          refine ⟨failures, _, .merged told, ?_, ?_⟩
          · rw [kept, mergeInto, mergeAttributes_failures]
          · rw [noted, List.append_assoc]
  | nested within tail ihWithin ihTail =>
      rcases ihWithin Contents.indexed_empty with
        ⟨failed, inside, toldInside, keptInside, notedInside⟩
      rcases ihTail (indexed.addContainer _) with ⟨failures, events, told, kept, noted⟩
      rw [openContainer_snd] at keptInside notedInside
      refine ⟨_, _, toldInside.nested told, ?_, ?_⟩
      · rw [kept, keptInside, List.append_assoc]
      · rw [noted, notedInside, List.append_assoc, List.append_assoc]

/-- The lines that belong to a history and to failures, topic by topic. -/
def History.lines (history : History) (failures : List Failure) : LogEvent.Topic → List LogEvent
  | .opening =>
      (Scope.scopesIn history.children).flatMap fun scope =>
        openingEvents (scope.name.getD "") scope.scopeType scope.defaults
  | .merging =>
      (history.occurrences.filter fun occurrence => occurrence.2 = .merged).flatMap
        fun occurrence =>
          mergingEvents occurrence.1.identity occurrence.1.attributes.entries
  | .failing => failures.flatMap Failure.lines

namespace Told

variable {history : History} {failures : List Failure} {events : List LogEvent}

theorem filter_topic (told : Told options history failures events) (topic : LogEvent.Topic) :
    (events.filter fun event => event.topic = topic) = history.lines failures topic := by
  induction told with
  | nil => cases topic <;> rfl
  | built tail ih => cases topic <;> exact ih
  | failed dump tail ih =>
      rw [List.filter_append, ih, filter_topic_of_forall fun _ => Failure.topic_lines]
      cases topic <;> rfl
  | merged tail ih =>
      rw [List.filter_append, ih, filter_topic_of_forall fun _ => topic_mergingEvents]
      cases topic <;> rfl
  | nested within tail ihWithin ihTail =>
      rw [List.filter_append, List.filter_append, ihWithin, ihTail,
        filter_topic_of_forall fun _ => topic_openingEvents]
      cases topic <;>
        simp [History.lines, History.children, History.occurrences, Scope.scopesIn, Scope.scopes]

theorem dump_isSome (told : Told options history failures events) :
    ∀ failure ∈ failures, failure.dump.isSome = options.debug := by
  induction told with
  | nil => simp
  | built tail ih => exact ih
  | failed dump tail ih =>
      rw [List.forall_mem_cons]
      refine ⟨?_, ih⟩
      rw [dump, dumpOf]
      cases options.debug <;> rfl
  | merged tail ih => exact ih
  | nested within tail ihWithin ihTail =>
      rw [List.forall_mem_append]
      exact ⟨ihWithin, ihTail⟩

end Told

/-! ### Lines that announce failures -/

/-- Each line of a log with the line right before it, given what comes before the first one. -/
def withPrior : Option LogEvent → List LogEvent → List (Option LogEvent × LogEvent)
  | _, [] => []
  | prior, event :: rest => (prior, event) :: withPrior (some event) rest

theorem withPrior_append (prior : Option LogEvent) (first second : List LogEvent) :
    withPrior prior (first ++ second) =
      withPrior prior first ++ withPrior (first.getLast?.or prior) second := by
  induction first generalizing prior with
  | nil => rfl
  | cons event rest ih =>
      rw [List.cons_append, withPrior, ih, withPrior, List.cons_append, List.getLast?_cons]
      cases rest.getLast? <;> rfl

/-- A line announces a failure by its identity, the text of its location and its cause, and if
something was destroyed on its account then the line right before it says so, and only then. -/
structure Failure.AnnouncedBy (failure : Failure) (prior : Option LogEvent) (event : LogEvent) :
    Prop where
  event_eq : event = .couldNotCreate failure.identity failure.location failure.cause
  fields_eq : event.fields = [("resource", failure.identity.display),
    ("location", failure.location.display), ("cause", failure.cause)]
  prior_eq : ∀ line ∈ failure.cleanup.events failure.identity, prior = some line
  prior_fields_eq : failure.cleanup ≠ .nothing →
    prior.map LogEvent.fields = some [("resource", failure.identity.display)]
  destroyedPartial_iff : failure.cleanup = .destroyedPartial ↔
    prior.map LogEvent.message = some "destroying partially built resource"
  destroyedRetrieved_iff : failure.cleanup = .destroyedRetrieved ↔
    prior.map LogEvent.message = some "destroying retrieved resource"

/-- Failures are announced, in order, by the lines that say that a resource could not be created. -/
def Announced (failures : List Failure) (lines : List (Option LogEvent × LogEvent)) : Prop :=
  List.Forall₂ (fun failure line => failure.AnnouncedBy line.1 line.2) failures
    (lines.filter fun line => line.2.message = "could not create resource")

/-- Failures are announced in some lines no matter what other lines come before, unless the last one
of these says that something is destroyed. The lines themselves do not end with such a line. -/
def Announces (failures : List Failure) (events : List LogEvent) : Prop :=
  ∀ prior : Option LogEvent, prior.any LogEvent.isCleanup = false →
    Announced failures (withPrior prior events) ∧
      (events.getLast?.or prior).any LogEvent.isCleanup = false

namespace Announces

variable {failures failures' : List Failure} {events events' : List LogEvent}

theorem append (first : Announces failures events) (second : Announces failures' events') :
    Announces (failures ++ failures') (events ++ events') := by
  intro prior harmless
  rcases first prior harmless with ⟨announced, harmlessAfter⟩
  rcases second _ harmlessAfter with ⟨announced', harmlessLast⟩
  constructor
  · rw [withPrior_append, Announced, List.filter_append]
    exact List.rel_append announced announced'
  · rwa [List.getLast?_append, Option.or_assoc]

theorem of_forall (ordinary : ∀ event ∈ events, event.isCleanup = false ∧
    event.message ≠ "could not create resource") : Announces [] events := by
  induction events with
  | nil =>
      intro prior harmless
      exact ⟨.nil, harmless⟩
  | cons event rest ih =>
      rw [List.forall_mem_cons] at ordinary
      rcases ordinary with ⟨⟨harmless, other⟩, ordinary⟩
      have here : Announces [] [event] := by
        intro prior _
        simp [Announced, withPrior, harmless, other]
      exact here.append (ih ordinary)

theorem of_topic {topic : LogEvent.Topic} (about : ∀ event ∈ events, event.topic = topic)
    (other : topic ≠ .failing) : Announces [] events := by
  apply of_forall
  intro event member
  have different := about event member ▸ other
  cases event <;> simp_all [LogEvent.topic, LogEvent.isCleanup, LogEvent.message]

theorem of_lines (failure : Failure) : Announces [failure] failure.lines := by
  have dumps : Announces [] failure.dumpEvents := by
    apply of_forall
    intro event member
    rcases List.mem_map.1 member with ⟨text, _, rfl⟩
    exact ⟨rfl, by simp [LogEvent.message]⟩
  apply dumps.append
  intro prior harmless
  rcases failure with ⟨identity, location, cause, cleanup, dump⟩
  cases cleanup with
  | destroyedPartial =>
      refine ⟨.cons ⟨rfl, rfl, by simp [Cleanup.events], fun _ => rfl, ?_, ?_⟩ .nil, rfl⟩
      · simp [LogEvent.message]
      · simp [LogEvent.message]
  | destroyedRetrieved =>
      refine ⟨.cons ⟨rfl, rfl, by simp [Cleanup.events], fun _ => rfl, ?_, ?_⟩ .nil, rfl⟩
      · simp [LogEvent.message]
      · simp [LogEvent.message]
  | nothing =>
      -- nothing was destroyed on account of this failure, nor right before it
      refine ⟨.cons ⟨rfl, rfl, by simp [Cleanup.events], by simp, ?_, ?_⟩ .nil, rfl⟩
      · simp [LogEvent.map_message_ne_of_isCleanup harmless]
      · simp [LogEvent.map_message_ne_of_isCleanup harmless]

end Announces

theorem Told.announces {history : History} {failures : List Failure} {events : List LogEvent}
    (told : Told options history failures events) : Announces failures events := by
  induction told with
  | nil => exact .of_forall (by simp)
  | built tail ih => exact ih
  | failed dump tail ih => exact (Announces.of_lines _).append ih
  | merged tail ih =>
      exact (Announces.of_topic (fun _ => topic_mergingEvents) (by decide)).append ih
  | nested within tail ihWithin ihTail =>
      exact (Announces.of_topic (fun _ => topic_openingEvents) (by decide)).append
        (ihWithin.append ihTail)

/-! ### The whole story -/

/-- What a log tells of a history and of the failures that were kept in its course. -/
structure Story (options : Options) (history : History) (failures : List Failure)
    (log : List LogEvent) : Prop where
  announced : Announced failures (withPrior none log)
  errors : (log.filter fun event => event.level = .error) = failures.flatMap Failure.lines
  dumps : ∀ failure ∈ failures, failure.dump.isSome = options.debug
  merging : (log.filter fun event => event.message = "merging attribute") =
    (history.occurrences.filter fun occurrence => occurrence.2 = .merged).flatMap
      fun occurrence => mergingEvents occurrence.1.identity occurrence.1.attributes.entries
  opening : (log.filter fun event => event.message ∈
      ["scope has no type", "scope has no default attributes", "defining scope default"]) =
    (Scope.scopesIn history.children).flatMap fun scope =>
      openingEvents (scope.name.getD "") scope.scopeType scope.defaults

theorem Told.story {history : History} {failures : List Failure} {events : List LogEvent}
    (told : Told options history failures events) : Story options history failures events where
  announced := (told.announces none rfl).1
  errors := by
    simp only [LogEvent.level_eq_error_iff]
    exact told.filter_topic .failing
  dumps := told.dump_isSome
  merging := by
    simp only [LogEvent.message_eq_merging_iff]
    exact told.filter_topic .merging
  opening := by
    simp only [LogEvent.message_mem_opening_iff]
    exact told.filter_topic .opening

/-- The history of what a run on a tree reaches, whose calls and failures are those of the run. All
of the tree is reached unless the run ends with a fatal error. -/
structure Reached (provider : Provider σ ι) (options : Options) (scope : Scope) (world : σ)
    (history : History) : Prop where
  children : history.children = Scope.childrenBefore (Place.isFaulty provider) [.scope scope]
  whole : (∃ lowered session, lower provider options scope world = (.ok lowered, session)) →
    history.children = [.scope scope]
  merged : history.MergesBuilt []
  transcript : Transcript history (callsOf provider options scope world)
    (keptFailures (lower provider options scope world))

theorem Scope.childrenBefore_eq_self {stops : Place → Bool} {children : List Child}
    (clean : ∀ place ∈ placesIn children, stops place = false) :
    childrenBefore stops children = children := by
  induction children using children_induction with
  | nil => rfl
  | declaration content rest ih =>
      rw [placesIn, List.forall_mem_cons] at clean
      rw [childrenBefore, clean.1, ih clean.2]
      rfl
  | scope scope rest _ ih =>
      rw [placesIn, places_eq, List.cons_append, List.forall_mem_cons,
        List.forall_mem_append] at clean
      rcases clean with ⟨here, inside, after⟩
      have none : (placesIn scope.children).any stops = false := by
        rw [List.any_eq_false]
        intro place present
        rw [inside place present]
        decide
      rw [childrenBefore, here, none, ih after]
      rfl

/-- A run on a tree is a run on a list of children of which it is the only one. -/
theorem snd_resolveChildren_singleton (scope : Scope) (session : Session σ) :
    (resolveChildren provider options "" [.scope scope] .empty session).2 =
      (resolveScope provider options scope session).2 := by
  rw [resolveChildren]
  rcases resolveScope provider options scope session with ⟨fault | container, after⟩ <;> rfl

theorem snd_lower (scope : Scope) (world : σ) :
    keptFailures (lower provider options scope world) =
        (resolveScope provider options scope (.start world)).2.failures ∧
      (lower provider options scope world).2.log =
        (resolveScope provider options scope (.start world)).2.log ∧
      (lower provider options scope world).2.world =
        (resolveScope provider options scope (.start world)).2.world := by
  rw [lower]
  rcases resolveScope provider options scope (.start world) with ⟨fault | root, after⟩ <;>
    exact ⟨rfl, rfl, rfl⟩

/-- If what is reached of a tree is lowered to the end, the tree leads to the same session. -/
theorem snd_resolveScope_of_reached {scope : Scope} {session last : Session σ}
    {final : Contents ι}
    (short : resolveChildren provider options ""
      (Scope.childrenBefore (Place.isFaulty provider) [.scope scope]) .empty session =
        (.ok final, last)) :
    (resolveScope provider options scope session).2 = last := by
  rcases stopsAtFault options [.scope scope] Contents.known_empty "" session with
    ⟨_, _, sameShort, whole⟩
  rw [short, Prod.mk.injEq] at sameShort
  rw [← snd_resolveChildren_singleton, whole, sameShort.2]

/-- The calls of a run are those of the run on what it reaches. -/
theorem callsOf_eq_of_reached {scope : Scope} {world : σ} {history : History} {final : Contents ι}
    {last : Session σ} {made : List (Call ι)}
    (reached : history.children = Scope.childrenBefore (Place.isFaulty provider) [.scope scope])
    (recorded : Filling provider.recording options "" history .empty
      ((Session.start world).recorded []) final (last.recorded made)) :
    callsOf provider options scope world = made := by
  have sameFaults : Place.isFaulty provider.recording = Place.isFaulty provider := by
    funext place
    rw [Place.isFaulty, Place.isFaulty, Place.fault?_recording]
  have short := recorded.resolveChildren_eq
  rw [reached, ← sameFaults] at short
  rcases @snd_lower _ _ provider.recording options scope ⟨world, []⟩ with ⟨_, _, sameWorld⟩
  rw [callsOf, sameWorld]
  exact congrArg (fun session => session.world.calls) (snd_resolveScope_of_reached short)

theorem isFaulty_eq_false_of_lower {scope : Scope} {world : σ} {lowered : Lowered ι}
    {session : Session σ}
    (run : lower provider options scope world = (.ok lowered, session)) :
    ∀ place ∈ scope.places, place.isFaulty provider = false := by
  intro place present
  by_contra faulty
  rw [Bool.not_eq_false, Place.isFaulty] at faulty
  have found := List.findSome?_isSome_iff.2 ⟨place, present, faulty⟩
  rcases Option.isSome_iff_exists.1 found with ⟨fault, first⟩
  rcases (exists_lower_eq_error_iff scope world fault).2 first with ⟨_, failed⟩
  rw [run] at failed
  cases failed

/-- However a run ends, its log tells which failures it has kept, what it has merged and which
scopes it has opened, as far as it got. -/
theorem exists_story_of_lower (provider : Provider σ ι) (options : Options) (scope : Scope)
    (world : σ) :
    ∃ history, Reached provider options scope world history ∧
      Story options history (keptFailures (lower provider options scope world))
        (lower provider options scope world).2.log := by
  rcases stopsAtFault options [.scope scope] Contents.known_empty "" (.start world) with
    ⟨final, last, short, _⟩
  rcases exists_filling_of_resolveChildren Contents.indexed_empty short with
    ⟨history, reached, filling⟩
  rcases filling.exists_told Contents.indexed_empty with ⟨failures, events, told, kept, noted⟩
  rcases filling.exists_transcript [] with ⟨made, failed, transcript, keptFailed, recorded⟩
  have ended := snd_resolveScope_of_reached short
  rcases @snd_lower _ _ provider options scope world with ⟨sameFailures, sameLog, _⟩
  rw [ended, kept] at sameFailures
  rw [ended, noted] at sameLog
  have calls := callsOf_eq_of_reached reached recorded
  refine ⟨history, ⟨reached, ?_, filling.mergesBuilt_of_empty, ?_⟩, ?_⟩
  · rintro ⟨lowered, session, run⟩
    rw [reached]
    apply Scope.childrenBefore_eq_self
    rw [Scope.placesIn, Scope.placesIn, List.append_nil]
    exact isFaulty_eq_false_of_lower run
  · rw [calls, sameFailures, ← kept, keptFailed]
    exact transcript
  · rw [sameFailures, sameLog]
    exact told.story

end Manifest
