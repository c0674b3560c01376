import Mathlib.Data.List.Forall2
import Manifest.Proofs.Lowering.Recounting

/-!
# Cleaning up

The calls of a run fall into episodes. Each begins with the construction of an instance and ends
before the next construction (`Episode`). If the construction was refused, what has remained of it
is destroyed first, and the failure that is kept tells how (`Episode.Fails`). Everything else that
is done up to the next construction gives attributes and locations to instances that exist, so
nothing is looked for and nothing destroyed that does not belong to a failure (`FallsInto`).

A run that ends with a fatal error has made a part of its calls. The part falls into episodes too,
because `FailuresOf` holds of it.
-/

namespace Manifest

variable {σ ι : Type}

/-- What a run asks for, from a construction up to the next one. -/
structure Episode (ι : Type) where
  declaration : Declaration
  outcome : Except (ConstructionError ι) ι
  /-- The calls that look for what has remained, or destroy it. -/
  cleaning : List (Call ι)
  /-- The calls that come after those. -/
  settings : List (Call ι)

namespace Episode

def calls (episode : Episode ι) : List (Call ι) :=
  .construct episode.declaration.resourceType episode.declaration.attributes episode.outcome ::
    (episode.cleaning ++ episode.settings)

def hasFailed (episode : Episode ι) : Bool :=
  !episode.outcome.isOk

/-- An episode begins with a refusal, and a failure tells what was done about it. -/
inductive Fails (options : Options) : Episode ι → Failure → Prop where
  | refused {declaration : Declaration} {error : ConstructionError ι} {cleanup : Cleanup}
      {cleaning settings : List (Call ι)}
      (cleans : CleansUp declaration.identity error.remains cleanup cleaning) :
      Fails options ⟨declaration, .error error, cleaning, settings⟩
        ⟨declaration.identity, declaration.location, error.message, cleanup,
          dumpOf options declaration⟩

end Episode

/-- Calls fall into episodes, after some with which a run opens, and failures are those of the
episodes that begin with a refusal. -/
structure FallsInto (options : Options) (opening : List (Call ι)) (episodes : List (Episode ι))
    (calls : List (Call ι)) (failures : List Failure) : Prop where
  calls_eq : calls = opening ++ episodes.flatMap Episode.calls
  opening : ∀ call ∈ opening, call.isSetting = true
  settings : ∀ episode ∈ episodes, ∀ call ∈ episode.settings, call.isSetting = true
  /-- Nothing is cleaned up after what was built. -/
  cleaning : ∀ episode ∈ episodes, episode.hasFailed = false → episode.cleaning = []
  failures : List.Forall₂ (Episode.Fails options) (episodes.filter Episode.hasFailed) failures

namespace FallsInto

variable {options : Options} {opening : List (Call ι)} {episodes : List (Episode ι)}
  {calls : List (Call ι)} {failures : List Failure}

theorem setting (falls : FallsInto options opening episodes calls failures) {call : Call ι}
    (harmless : call.isSetting = true) :
    FallsInto options (call :: opening) episodes (call :: calls) failures where
  calls_eq := by rw [falls.calls_eq, List.cons_append]
  opening := List.forall_mem_cons.2 ⟨harmless, falls.opening⟩
  settings := falls.settings
  cleaning := falls.cleaning
  failures := falls.failures

/-- What came before the first construction belongs to the episode that is put in front. -/
theorem built (falls : FallsInto options opening episodes calls failures)
    (declaration : Declaration) (handle : ι) :
    FallsInto options [] (⟨declaration, .ok handle, [], opening⟩ :: episodes)
      (.construct declaration.resourceType declaration.attributes (.ok handle) :: calls)
      failures where
  calls_eq := by
    rw [falls.calls_eq]
    rfl
  opening := by simp
  settings := List.forall_mem_cons.2 ⟨falls.opening, falls.settings⟩
  cleaning := List.forall_mem_cons.2 ⟨fun _ => rfl, falls.cleaning⟩
  failures := falls.failures

theorem failed (falls : FallsInto options opening episodes calls failures)
    {declaration : Declaration} {error : ConstructionError ι} {cleanup : Cleanup}
    {cleaning : List (Call ι)}
    (cleans : CleansUp declaration.identity error.remains cleanup cleaning) :
    FallsInto options [] (⟨declaration, .error error, cleaning, opening⟩ :: episodes)
      (.construct declaration.resourceType declaration.attributes (.error error) ::
        (cleaning ++ calls))
      (⟨declaration.identity, declaration.location, error.message, cleanup,
        dumpOf options declaration⟩ :: failures) where
  calls_eq := by
    rw [falls.calls_eq, List.flatMap_cons, Episode.calls, List.cons_append, List.append_assoc]
    rfl
  opening := by simp
  settings := List.forall_mem_cons.2 ⟨falls.opening, falls.settings⟩
  cleaning := List.forall_mem_cons.2 ⟨fun unfailed => by contradiction, falls.cleaning⟩
  failures := .cons (.refused cleans) falls.failures

end FallsInto

/-- The episodes are those of the declarations from which something was to be built. -/
theorem FailuresOf.exists_fallsInto {options : Options} {attempted : List Declaration}
    {calls : List (Call ι)} {failures : List Failure}
    (related : FailuresOf options attempted calls failures) :
    ∃ opening episodes, episodes.map Episode.declaration = attempted ∧
      FallsInto options opening episodes calls failures := by
  induction related with
  | nil => exact ⟨[], [], rfl, rfl, by simp, by simp, by simp, .nil⟩
  | setting harmless tail ih =>
      rcases ih with ⟨opening, episodes, same, falls⟩
      exact ⟨_, episodes, same, falls.setting harmless⟩
  | built tail ih =>
      rcases ih with ⟨opening, episodes, same, falls⟩
      exact ⟨[], _, congrArg _ same, falls.built _ _⟩
  | failed cleans tail ih =>
      rcases ih with ⟨opening, episodes, same, falls⟩
      exact ⟨[], _, congrArg _ same, falls.failed cleans⟩

/-- Whether a run ends well or with a fatal error, its calls fall into episodes, and the failures
that it has kept are those of the episodes. -/
theorem exists_fallsInto_lower (provider : Provider σ ι) (options : Options) (scope : Scope)
    (world : σ) :
    ∃ opening episodes,
      (episodes.map Episode.declaration).Sublist scope.declarations ∧
        FallsInto options opening episodes (callsOf provider options scope world)
          (keptFailures (lower provider options scope world)) := by
  rcases exists_failuresOf_lower provider options scope world with ⟨attempted, within, related⟩
  rcases related.exists_fallsInto with ⟨opening, episodes, rfl, falls⟩
  exact ⟨opening, episodes, within, falls⟩

/-- Three files that are refused, each of which leaves something else behind, and one that is built.
After them comes a scope without a name. -/
def Memory.treeOfRefusals : Scope :=
  { Scope.named "main" with children := [
    .declaration (file "/a" 1 [("fail", .string "both")] a_ne_empty),
    .declaration (file "/b" 2 [("fail", .string "registered")] b_ne_empty),
    .scope { Scope.named "inner" with children := [
      .declaration (file "/c" 4 [("fail", .string "plain")] c_ne_empty),
      .declaration (file "/a" 5 [] a_ne_empty)] },
    .scope .empty] }

/-- The run ends with a fatal error after four constructions. The location of the file that was
built is the one call that belongs neither to a construction nor to a failure. -/
theorem exists_fallsInto_lower_treeOfRefusals :
    ∃ fault session, lower Memory.files .default Memory.treeOfRefusals .empty =
        (.error fault, session) ∧
      session.failures.map (fun failure => (failure.identity.name, failure.cleanup)) =
        [("/a", .destroyedPartial), ("/b", .destroyedRetrieved), ("/c", .nothing)] ∧
      (callsOf Memory.files .default Memory.treeOfRefusals .empty).map Call.isSetting =
        [false, false, false, false, false, false, false, false, true] ∧
      ∃ opening episodes,
        (episodes.map Episode.declaration).Sublist Memory.treeOfRefusals.declarations ∧
          FallsInto .default opening episodes
            (callsOf Memory.files .default Memory.treeOfRefusals .empty) session.failures :=
  ⟨_, _, rfl, by decide +kernel, by decide +kernel,
    exists_fallsInto_lower Memory.files .default Memory.treeOfRefusals .empty⟩

end Manifest
