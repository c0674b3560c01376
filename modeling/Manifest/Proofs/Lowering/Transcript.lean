import Manifest.Proofs.Lowering.Attributes
import Manifest.Proofs.Lowering.Isolation
import Manifest.Provider.Recording

/-!
# Transcripts of runs

A run asks its provider to do things, and the calls can be read off the same run with a recording
provider (`callsOf`). Recording changes nothing else: each step of a run is a step of the recording
run, in a session that differs only in the calls that its world holds (`Session.recorded`).

`Transcript` says which calls and which failures belong to a history: a construction for each
declaration that was not merged, followed by the location of what was built or by the cleaning up
after what was not, and nothing but attributes for one that was merged. Whatever is said about the
calls of a run is proved by induction on its transcript.
-/

namespace Manifest

variable {σ ι : Type}

/-- Cleaning up after an identity, of which a failed construction may have handed something back,
takes a form and makes calls. -/
inductive CleansUp (identity : Identity) : Option ι → Cleanup → List (Call ι) → Prop where
  | partly {handle : ι} : CleansUp identity (some handle) .destroyedPartial [.destroy handle]
  | retrieved {handle : ι} :
      CleansUp identity none .destroyedRetrieved
        [.retrieve identity.resourceType identity.name (some handle), .destroy handle]
  | nothing :
      CleansUp identity none .nothing [.retrieve identity.resourceType identity.name none]

/-- Lowering a declaration makes calls and keeps failures, as its fate demands. -/
inductive Handling (declaration : Declaration) : Fate → List (Call ι) → List Failure → Prop where
  | built {handle : ι} :
      Handling declaration .built
        [.construct declaration.resourceType declaration.attributes (.ok handle),
          .setLocation handle declaration.location] []
  | failed {error : ConstructionError ι} {cleanup : Cleanup} {cleaning : List (Call ι)}
      {dump : Option String}
      (cleans : CleansUp declaration.identity error.remains cleanup cleaning) :
      Handling declaration .failed
        (.construct declaration.resourceType declaration.attributes (.error error) :: cleaning)
        [⟨declaration.identity, declaration.location, error.message, cleanup, dump⟩]
  | merged {made : List (Call ι)}
      (sets : ∀ call ∈ made, ∃ handle key value, call = .setAttribute handle key value) :
      Handling declaration .merged made []

/-- The calls and the failures that belong to a history, in order. -/
inductive Transcript : History → List (Call ι) → List Failure → Prop where
  | nil : Transcript .nil [] []
  | entry {declaration : Declaration} {fate : Fate} {rest : History} {made later : List (Call ι)}
      {failed failures : List Failure} (handling : Handling declaration fate made failed)
      (tail : Transcript rest later failures) :
      Transcript (.entry declaration fate rest) (made ++ later) (failed ++ failures)
  | nested {name : String} {scopeType : Option String} {location : Location}
      {defaults : Option Attributes} {inner rest : History} {made later : List (Call ι)}
      {failed failures : List Failure} (within : Transcript inner made failed)
      (tail : Transcript rest later failures) :
      Transcript (.nested name scopeType location defaults inner rest) (made ++ later)
        (failed ++ failures)

/-- The same session in a world that also holds the calls made so far. -/
def Session.recorded (session : Session σ) (calls : List (Call ι)) : Session (Recorded σ ι) :=
  ⟨⟨session.world, calls⟩, session.failures, session.log⟩

/-- The calls that are made when a tree is lowered in a world. -/
def callsOf (provider : Provider σ ι) (options : Options) (scope : Scope) (world : σ) :
    List (Call ι) :=
  (lower provider.recording options scope ⟨world, []⟩).2.world.calls

variable {provider : Provider σ ι} {options : Options}

theorem lookup_recording {name : String} {resourceType : ResourceType σ ι}
    (known : provider.lookup name = some resourceType) :
    provider.recording.lookup name = some (resourceType.recording name) := by
  simp only [Provider.recording, known, Option.map_some]

theorem construct_recording {resourceType : ResourceType σ ι} {attributes : Attributes}
    {outcome : Except (ConstructionError ι) ι} {world after : σ}
    (constructed : resourceType.construct attributes world = (outcome, after)) (label : String)
    (calls : List (Call ι)) :
    (resourceType.recording label).construct attributes ⟨world, calls⟩ =
      (outcome, ⟨after, calls ++ [.construct label attributes outcome]⟩) := by
  simp only [ResourceType.recording, Recorded.step, constructed]

theorem setLocation_recording {handle located : ι} {location : Location} {world after : σ}
    (moved : provider.operations.setLocation handle location world = (located, after))
    (calls : List (Call ι)) :
    provider.recording.operations.setLocation handle location ⟨world, calls⟩ =
      (located, ⟨after, calls ++ [.setLocation handle location]⟩) := by
  simp only [Provider.recording, InstanceOps.recording, Recorded.step, moved]

theorem openContainer_recorded_fst (name : String) (scopeType : Option String)
    (defaults : Option Attributes) (session : Session σ) (calls : List (Call ι)) :
    (openContainer name scopeType defaults (session.recorded calls)).1 =
      (openContainer name scopeType defaults session).1 := by
  rw [openContainer_fst, openContainer_fst]

theorem openContainer_recorded_snd (name : String) (scopeType : Option String)
    (defaults : Option Attributes) (session : Session σ) (calls : List (Call ι)) :
    (openContainer name scopeType defaults (session.recorded calls)).2 =
      (openContainer name scopeType defaults session).2.recorded calls := by
  rw [openContainer_snd, openContainer_snd]
  rfl

theorem exists_mergeAttributes_recorded (provider : Provider σ ι) (identity : Identity)
    (entries : List (String × Value)) (handle : ι) (session : Session σ) (calls : List (Call ι)) :
    ∃ made, (∀ call ∈ made, ∃ handle key value, call = .setAttribute handle key value) ∧
      mergeAttributes provider.recording identity entries handle (session.recorded calls) =
        ((mergeAttributes provider identity entries handle session).1,
          (mergeAttributes provider identity entries handle session).2.recorded
            (calls ++ made)) := by
  induction entries generalizing handle session calls with
  | nil =>
      refine ⟨[], by simp, ?_⟩
      rw [List.append_nil]
      rfl
  | cons entry rest ih =>
      rcases entry with ⟨key, value⟩
      by_cases fixed : key = Attributes.nameKey
      · rcases ih handle session calls with ⟨made, sets, merged⟩
        refine ⟨made, sets, ?_⟩
        simp only [mergeAttributes, fixed, if_true]
        exact merged
      · rcases changed : provider.operations.setAttribute handle key value session.world with
          ⟨next, world⟩
        rcases ih next ((session.note (.mergingAttribute identity key)).inWorld world)
          (calls ++ [.setAttribute handle key value]) with ⟨made, sets, merged⟩
        refine ⟨.setAttribute handle key value :: made, ?_, ?_⟩
        · intro call member
          rcases List.mem_cons.1 member with rfl | further
          · exact ⟨handle, key, value, rfl⟩
          · exact sets call further
        · rw [List.append_assoc] at merged
          simp only [mergeAttributes, fixed, if_false, changed]
          rw [← List.singleton_append, ← merged]
          simp only [Provider.recording, InstanceOps.recording, Session.recorded, Recorded.step,
            Session.note, Session.inWorld, changed]

theorem exists_cleanUp_recorded (provider : Provider σ ι) (resourceType : ResourceType σ ι)
    (identity : Identity) (remains : Option ι) (session : Session σ) (calls : List (Call ι)) :
    ∃ made, CleansUp identity remains (cleanUp provider resourceType identity remains session).1
        made ∧
      cleanUp provider.recording (resourceType.recording identity.resourceType) identity remains
          (session.recorded calls) =
        ((cleanUp provider resourceType identity remains session).1,
          (cleanUp provider resourceType identity remains session).2.recorded
            (calls ++ made)) := by
  cases remains with
  | some handle => exact ⟨[.destroy handle], .partly, rfl⟩
  | none =>
      rcases found : resourceType.retrieve identity.name session.world with ⟨kept | handle, world⟩
      · refine ⟨[.retrieve identity.resourceType identity.name none], ?_, ?_⟩
        · simp only [cleanUp, found]
          exact .nothing
        · simp only [cleanUp, ResourceType.recording, Session.recorded, Recorded.step, found]
          rfl
      · refine ⟨[.retrieve identity.resourceType identity.name (some handle), .destroy handle],
          ?_, ?_⟩
        · simp only [cleanUp, found]
          exact .retrieved
        · simp only [cleanUp, ResourceType.recording, Session.recorded, Recorded.step, found,
            Provider.recording, InstanceOps.recording, Session.note, Session.inWorld,
            List.append_assoc, List.singleton_append]

theorem failures_cleanUp (resourceType : ResourceType σ ι) (identity : Identity)
    (remains : Option ι) (session : Session σ) :
    (cleanUp provider resourceType identity remains session).2.failures = session.failures := by
  cases remains with
  | some handle => rfl
  | none =>
      rcases found : resourceType.retrieve identity.name session.world with
        ⟨kept | handle, world⟩ <;>
        simp only [cleanUp, found] <;> rfl

/-- What is kept of a failed declaration if dumps are asked for. -/
def dumpOf (options : Options) (declaration : Declaration) : Option String :=
  if options.debug then some declaration.display else none

/-- The session after a dump, if there is one, has gone to the log. -/
def Session.noteDump (session : Session σ) (identity : Identity) : Option String → Session σ
  | some text => session.note (.failedDeclaration identity text)
  | none => session

theorem recordFailure_snd (resourceType : ResourceType σ ι) (declaration : Declaration)
    (error : ConstructionError ι) (session : Session σ) :
    (recordFailure provider options resourceType declaration error session).2 =
      let cleaned := cleanUp provider resourceType declaration.identity error.remains
        (session.noteDump declaration.identity (dumpOf options declaration))
      (cleaned.2.note
          (.couldNotCreate declaration.identity declaration.location error.message)).addFailure
        ⟨declaration.identity, declaration.location, error.message, cleaned.1,
          dumpOf options declaration⟩ := by
  cases debug : options.debug <;> simp only [recordFailure, dumpOf, debug] <;> rfl

theorem noteDump_recorded (session : Session σ) (identity : Identity) (dump : Option String)
    (calls : List (Call ι)) :
    (session.recorded calls).noteDump identity dump =
      (session.noteDump identity dump).recorded calls := by
  cases dump <;> rfl

theorem failures_noteDump (session : Session σ) (identity : Identity) (dump : Option String) :
    (session.noteDump identity dump).failures = session.failures := by
  cases dump <;> rfl

theorem exists_recordFailure_recorded (provider : Provider σ ι) (options : Options)
    (resourceType : ResourceType σ ι) (declaration : Declaration) (error : ConstructionError ι)
    (session : Session σ) (calls : List (Call ι)) :
    ∃ cleaning cleanup dump, CleansUp declaration.identity error.remains cleanup cleaning ∧
      (recordFailure provider options resourceType declaration error session).2.failures =
        session.failures ++
          [⟨declaration.identity, declaration.location, error.message, cleanup, dump⟩] ∧
      (recordFailure provider.recording options
          (resourceType.recording declaration.resourceType) declaration error
          (session.recorded calls)).2 =
        (recordFailure provider options resourceType declaration error session).2.recorded
          (calls ++ cleaning) := by
  rcases exists_cleanUp_recorded provider resourceType declaration.identity
    error.remains (session.noteDump declaration.identity (dumpOf options declaration)) calls with
    ⟨cleaning, cleans, cleaned⟩
  refine ⟨cleaning, _, dumpOf options declaration, cleans, ?_, ?_⟩
  · rw [recordFailure_snd]
    simp only [Session.addFailure, Session.note, failures_cleanUp, failures_noteDump]
  · rw [recordFailure_snd, recordFailure_snd, noteDump_recorded]
    replace cleaned : cleanUp provider.recording
      (resourceType.recording declaration.resourceType) declaration.identity error.remains _ = _ :=
        cleaned
    rw [cleaned]
    rfl

namespace Placement

variable {scope : String} {declaration : Declaration} {fate : Fate} {contents next : Contents ι}
  {session after : Session σ}

/-- Lowering one declaration is done in the same way by the recording provider, and makes the calls
and keeps the failures that the fate demands. -/
theorem exists_handling
    (placement : Placement provider options scope declaration contents session fate next after)
    (calls : List (Call ι)) :
    ∃ made failed, Handling declaration fate made failed ∧
      after.failures = session.failures ++ failed ∧
      Placement provider.recording options scope declaration contents (session.recorded calls)
        fate next (after.recorded (calls ++ made)) := by
  cases placement with
  | @built _ handle _ _ _ fresh known constructed moved =>
      have recorded : Placement provider.recording options scope declaration contents
          (session.recorded calls) .built _ _ :=
        .built fresh (lookup_recording known)
          (construct_recording constructed declaration.resourceType calls)
          (setLocation_recording moved _)
      refine ⟨_, [], @Handling.built _ _ handle, (List.append_nil _).symm, ?_⟩
      rw [List.append_assoc] at recorded
      exact recorded
  | @failed resourceType error world fresh known refused =>
      rcases exists_recordFailure_recorded provider options resourceType declaration error
        (session.inWorld world)
        (calls ++ [.construct declaration.resourceType declaration.attributes (.error error)]) with
        ⟨cleaning, cleanup, dump, cleans, kept, cleaned⟩
      have recorded : Placement provider.recording options scope declaration contents
          (session.recorded calls) .failed _ _ :=
        .failed fresh (lookup_recording known)
          (construct_recording refused declaration.resourceType calls)
      refine ⟨_, _, .failed cleans, kept, ?_⟩
      rw [List.append_assoc] at cleaned
      rw [← List.singleton_append, ← cleaned]
      exact recorded
  | @merged position existing kept there =>
      rcases exists_mergeAttributes_recorded provider existing.identity
        declaration.attributes.entries existing.handle session calls with ⟨made, sets, same⟩
      have recorded : Placement provider.recording options scope declaration contents
          (session.recorded calls) .merged _ _ := .merged kept there
      refine ⟨made, [], .merged sets, ?_, ?_⟩
      · rw [List.append_nil]
        exact mergeAttributes_failures existing.identity declaration.attributes.entries
          existing.handle session
      · simpa only [mergeInto, same] using recorded

end Placement

theorem Filling.exists_transcript {scope : String} {history : History}
    {contents final : Contents ι} {session last : Session σ}
    (filling : Filling provider options scope history contents session final last)
    (calls : List (Call ι)) :
    ∃ made failed, Transcript history made failed ∧
      last.failures = session.failures ++ failed ∧
      Filling provider.recording options scope history contents (session.recorded calls)
        final (last.recorded (calls ++ made)) := by
  induction filling generalizing calls with
  | nil =>
      refine ⟨[], [], .nil, (List.append_nil _).symm, ?_⟩
      rw [List.append_nil]
      exact .nil
  | entry placement tail ih =>
      rcases placement.exists_handling calls with ⟨made, failed, handling, kept, recorded⟩
      rcases ih (calls ++ made) with ⟨later, failures, transcript, keptLater, recordedTail⟩
      refine ⟨made ++ later, failed ++ failures, .entry handling transcript, ?_, ?_⟩
      · rw [keptLater, kept, List.append_assoc]
      · rw [← List.append_assoc]
        exact .entry recorded recordedTail
  | @nested _ name scopeType location defaults _ _ _ _ _ session _ _ within tail ihWithin ihTail =>
      rcases ihWithin calls with ⟨made, failed, inside, keptInside, recordedInside⟩
      rcases ihTail (calls ++ made) with ⟨later, failures, transcript, keptLater, recordedTail⟩
      refine ⟨made ++ later, failed ++ failures, .nested inside transcript, ?_, ?_⟩
      · rw [keptLater, keptInside, openContainer_snd, List.append_assoc]
      · rw [← openContainer_recorded_snd] at recordedInside
        rw [← openContainer_recorded_fst name scopeType defaults session calls] at recordedTail
        rw [← List.append_assoc]
        exact .nested recordedInside recordedTail

/-- A tree that is lowered to the end is lowered to the same result by the recording provider, and
the calls and the failures of the run have a transcript. -/
theorem transcript_of_lower {scope : Scope} {world : σ} {lowered : Lowered ι}
    {session : Session σ}
    (run : lower provider options scope world = (.ok lowered, session)) :
    Transcript (scope.history provider options world) (callsOf provider options scope world)
        lowered.failures ∧
      lower provider.recording options scope ⟨world, []⟩ =
        (.ok lowered, session.recorded (callsOf provider options scope world)) := by
  rcases filling_of_lower run with ⟨sameChildren, name, contents, last, named, filling, rfl, rfl⟩
  rcases filling.exists_transcript [] with ⟨made, failed, transcript, kept, recorded⟩
  rw [← openContainer_recorded_snd] at recorded
  have started : (Session.start world).recorded ([] : List (Call ι)) = .start ⟨world, []⟩ := rfl
  rw [started] at recorded
  have repeated := Filling.lower_eq named recorded
  rcases scope with ⟨scopeName, scopeType, location, defaults, children⟩
  rw [sameChildren] at repeated
  have calls : callsOf provider options ⟨scopeName, scopeType, location, defaults, children⟩ world =
      made := by
    rw [callsOf, repeated]
    rfl
  rw [openContainer_snd] at kept
  rw [calls]
  constructor
  · rw [kept]
    exact transcript
  · rw [repeated]
    rw [← openContainer_recorded_fst name scopeType defaults (.start world) ([] : List (Call ι))]
    rfl

end Manifest
