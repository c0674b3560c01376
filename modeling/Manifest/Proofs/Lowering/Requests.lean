import Manifest.Proofs.Lowering.Abort
import Manifest.Proofs.Lowering.AnyWorld
import Manifest.Proofs.Lowering.Recounting

/-!
# Sessions that serve requests

A session can be used for more than one tree. It is asked for declarations and for scopes, and now
and then for the failures that it has kept, in any order, and a request that ends with a fatal error
does not end the session. No failure gets lost or is told twice: what has been handed out and what
is still kept are the failures of all calls that were made (`exists_failuresOf_serveAll`). Nothing
else is carried from one request to the next. A reply is the one that a new session gives in the
same world (`serve_eq_of_start`), and if types are determined, almost the same as in any other world
(`alike_serve`).
-/

namespace Manifest

variable {σ ι ν α : Type}

/-- Something that a session can be asked for. -/
inductive Request where
  | declaration (declaration : Declaration)
  | scope (scope : Scope)
  /-- The failures that were kept since they were last asked for. -/
  | failures

inductive Reply (ι : Type) where
  | fault (fault : LoweringError)
  | resolution (resolution : Resolution ι)
  | container (container : Realized ι)
  | failures (failures : List Failure)

def Request.declarations : Request → List Declaration
  | .declaration content => [content]
  | .scope content => content.declarations
  | .failures => []

namespace Reply

def ofExcept (wrap : α → Reply ι) : Except LoweringError α → Reply ι
  | .ok result => wrap result
  | .error error => .fault error

def handedOut : Reply ι → List Failure
  | .failures taken => taken
  | .fault _ => []
  | .resolution _ => []
  | .container _ => []

/-- Two replies are the same, but for whether a failure has found an instance under its name. Of
instances, only what a view tells is the same. -/
inductive Alike (view : ι → ν) : Reply ι → Reply ι → Prop where
  | fault {fault : LoweringError} : Alike view (.fault fault) (.fault fault)
  | resolution {first second : Resolution ι}
      (same : Resolution.Related (fun handle handle' => view handle = view handle')
        (fun failure failure' => failure.withoutRetrieval = failure'.withoutRetrieval)
        first second) :
      Alike view (.resolution first) (.resolution second)
  | container {first second : Realized ι}
      (same : first.Mirrors (fun handle handle' => view handle = view handle') Eq second) :
      Alike view (.container first) (.container second)

end Reply

section

variable (provider : Provider σ ι) (options : Options)

def serve : Request → Session σ → Reply ι × Session σ
  | .declaration declaration, session =>
      let (outcome, after) := resolveDeclaration provider options declaration session
      (.ofExcept .resolution outcome, after)
  | .scope scope, session =>
      let (outcome, after) := resolveScope provider options scope session
      (.ofExcept .container outcome, after)
  | .failures, session =>
      let (failures, after) := session.takeFailures
      (.failures failures, after)

def serveAll : List Request → Session σ → List (Reply ι) × Session σ
  | [], session => ([], session)
  | request :: rest, session =>
      let (reply, after) := serve provider options request session
      let (replies, last) := serveAll rest after
      (reply :: replies, last)

/-- The calls that are made when requests are served in a new session. -/
def callsServing (requests : List Request) (world : σ) : List (Call ι) :=
  (serveAll provider.recording options requests (.start ⟨world, []⟩)).2.world.calls

end

variable {provider : Provider σ ι} {options : Options} {view : ι → ν}

theorem serveAll_append (before later : List Request) (session : Session σ) :
    serveAll provider options (before ++ later) session =
      let first := serveAll provider options before session
      let second := serveAll provider options later first.2
      (first.1 ++ second.1, second.2) := by
  induction before generalizing session with
  | nil => rfl
  | cons request rest ih => simp [serveAll, ih]

theorem length_serveAll (requests : List Request) (session : Session σ) :
    (serveAll provider options requests session).1.length = requests.length := by
  induction requests generalizing session with
  | nil => rfl
  | cons request rest ih => simp [serveAll, ih]

/-- A request that comes after others gets the reply that the session gives then. -/
theorem getElem?_serveAll {before requests : List Request} {request : Request}
    (reached : before ++ [request] <+: requests) (session : Session σ) :
    (serveAll provider options requests session).1[before.length]? =
      some (serve provider options request (serveAll provider options before session).2).1 := by
  rcases reached with ⟨later, rfl⟩
  rw [List.append_assoc, serveAll_append]
  have position := @length_serveAll _ _ provider options before session
  simp [← position, serveAll]

/-! ### Failures -/

theorem Reply.handedOut_ofExcept (wrap : α → Reply ι)
    (silent : ∀ result, (wrap result).handedOut = []) (outcome : Except LoweringError α) :
    (ofExcept wrap outcome).handedOut = [] := by
  cases outcome with
  | ok result => exact silent result
  | error fault => rfl

/-- What a request hands out and leaves in the session are the failures that were there, and those
of the calls that are made to serve it. -/
theorem exists_failuresOf_serve (request : Request) (session : Session σ) (calls : List (Call ι)) :
    ∃ attempted made failed, attempted.Sublist request.declarations ∧
      FailuresOf options attempted made failed ∧
      (serve provider options request session).1.handedOut ++
          (serve provider options request session).2.failures = session.failures ++ failed ∧
      serve provider.recording options request (session.recorded calls) =
        ((serve provider options request session).1,
          (serve provider options request session).2.recorded (calls ++ made)) := by
  cases request with
  | declaration declaration =>
      rcases @recounts_resolveDeclaration _ _ provider options declaration session calls with
        ⟨attempted, made, failed, within, related, kept, same⟩
      have silent := Reply.handedOut_ofExcept (.resolution : Resolution ι → Reply ι) fun _ => rfl
      refine ⟨attempted, made, failed, within, related, ?_, ?_⟩
      · simp only [serve, silent, List.nil_append, kept]
      · simp only [serve, same]
  | scope scope =>
      rcases @recounts_resolveScope _ _ provider options scope session calls with
        ⟨attempted, made, failed, within, related, kept, same⟩
      have silent := Reply.handedOut_ofExcept (.container : Realized ι → Reply ι) fun _ => rfl
      refine ⟨attempted, made, failed, within, related, ?_, ?_⟩
      · simp only [serve, silent, List.nil_append, kept]
      · simp only [serve, same]
  | failures =>
      refine ⟨[], [], [], .refl _, .nil, ?_, ?_⟩
      · simp [serve, Session.takeFailures, Reply.handedOut]
      · simp [serve, Session.takeFailures, Session.recorded]

/-- The failures that were handed out and those that are left are, in this order, the ones that were
there and those of all calls. -/
theorem exists_failuresOf_serveAll (requests : List Request) (session : Session σ)
    (calls : List (Call ι)) :
    ∃ attempted made failed, attempted.Sublist (requests.flatMap Request.declarations) ∧
      FailuresOf options attempted made failed ∧
      (serveAll provider options requests session).1.flatMap Reply.handedOut ++
          (serveAll provider options requests session).2.failures = session.failures ++ failed ∧
      serveAll provider.recording options requests (session.recorded calls) =
        ((serveAll provider options requests session).1,
          (serveAll provider options requests session).2.recorded (calls ++ made)) := by
  induction requests generalizing session calls with
  | nil =>
      refine ⟨[], [], [], .refl _, .nil, ?_, ?_⟩
      · simp [serveAll]
      · simp [serveAll]
  | cons request rest ih =>
      rcases @exists_failuresOf_serve _ _ provider options request session calls with
        ⟨attempted, made, failed, within, related, kept, same⟩
      rcases ih (serve provider options request session).2 (calls ++ made) with
        ⟨attempted', made', failed', within', related', kept', same'⟩
      refine ⟨attempted ++ attempted', made ++ made', failed ++ failed', within.append within',
        related.append related', ?_, ?_⟩
      · -- what the first request leaves is handed out, or still there, after the others
        simp only [serveAll, List.flatMap_cons, List.append_assoc, kept']
        rw [← List.append_assoc, kept, List.append_assoc]
      · simp only [serveAll, same, same', List.append_assoc]

theorem failures_of_serve_eq_failed {request : Request} {session : Session σ} {failure : Failure}
    (failed : (serve provider options request session).1 = .resolution (.failed failure)) :
    (serve provider options request session).2.failures = session.failures ++ [failure] := by
  cases request with
  | declaration declaration =>
      cases known : provider.lookup declaration.resourceType with
      | none => simp [serve, resolveDeclaration, known, Reply.ofExcept] at failed
      | some resourceType =>
          rcases constructed : resourceType.construct declaration.attributes session.world with
            ⟨error | handle, world⟩
          · simp only [serve, resolveDeclaration, known, constructed, recordFailure_eq,
              Reply.ofExcept, Reply.resolution.injEq, Resolution.failed.injEq] at failed
            simp only [serve, resolveDeclaration, known, constructed, recordFailure_eq]
            rw [failed]
            rfl
          · simp [serve, resolveDeclaration, known, constructed, Reply.ofExcept] at failed
  | scope scope =>
      rcases ended : resolveScope provider options scope session with ⟨fault | container, after⟩ <;>
        simp [serve, ended, Reply.ofExcept] at failed
  | failures => simp [serve, Session.takeFailures] at failed

/-! ### Replies -/

theorem serve_eq_of_start {request : Request} (lowers : request ≠ .failures) (session : Session σ) :
    (serve provider options request session).1 =
      (serve provider options request (.start session.world)).1 := by
  cases request with
  | declaration declaration =>
      have same : resolveDeclaration provider options declaration session = _ :=
        additive_resolveDeclaration declaration session
      simp only [serve]
      rw [same]
      rfl
  | scope scope =>
      have same : resolveScope provider options scope session = _ :=
        additive_resolveScope scope session
      simp only [serve]
      rw [same]
      rfl
  | failures => contradiction

theorem Reply.alike_ofExcept {results : α → α → Prop} {sessions : Session σ → Session σ → Prop}
    {wrap : α → Reply ι} (wraps : ∀ {result result'}, results result result' →
      Alike view (wrap result) (wrap result')) {first second : Outcome σ α}
    (related : Outcome.Related results sessions first second) :
    Alike view (ofExcept wrap first.1) (ofExcept wrap second.1) := by
  cases related with
  | failed met => exact .fault
  | done same met => exact wraps same

/-- If types are determined, a reply is the same in all worlds and sessions. -/
theorem Provider.Determined.alike_serve (determined : provider.Determined view)
    (options : Options) {request : Request} (lowers : request ≠ .failures)
    (session session' : Session σ) :
    Reply.Alike view (serve provider options request session).1
      (serve provider options request session').1 := by
  cases request with
  | declaration declaration =>
      exact Reply.alike_ofExcept .resolution
        (determined.resolveDeclaration options declaration session session')
  | scope scope =>
      exact Reply.alike_ofExcept .container
        (determined.resolveScope options scope session session')
  | failures => contradiction

/-- What has been handed out in a session and what is left are the failures of all calls, each once
and in order, and a failure that is told at once is the one that is kept. Each reply is the one that
a new session gives in the same world. If types are determined, it is the same in any other world,
but for whether a failure finds an instance that the type has kept under its name. -/
theorem serveAll_forgets_all_but_failures (provider : Provider σ ι) (options : Options)
    (requests : List Request) (world : σ) (view : ι → ν) :
    let served := serveAll provider options requests (.start world)
    (∃ attempted, attempted.Sublist (requests.flatMap Request.declarations) ∧
        FailuresOf options attempted (callsServing provider options requests world)
          (served.1.flatMap Reply.handedOut ++ served.2.failures)) ∧
      ∀ before request, before ++ [request] <+: requests →
        let session := (serveAll provider options before (.start world)).2
        let step := serve provider options request session
        served.1[before.length]? = some step.1 ∧
          (∀ failure, step.1 = .resolution (.failed failure) →
            step.2.failures = session.failures ++ [failure]) ∧
          (request ≠ .failures →
            step.1 = (serve provider options request (.start session.world)).1 ∧
              (provider.Determined view → ∀ other,
                Reply.Alike view step.1 (serve provider options request (.start other)).1)) := by
  constructor
  · rcases @exists_failuresOf_serveAll _ _ provider options requests (.start world) [] with
      ⟨attempted, made, failed, within, related, kept, same⟩
    replace same : serveAll provider.recording options requests (.start ⟨world, []⟩) = _ := same
    refine ⟨attempted, within, ?_⟩
    rw [kept, callsServing, same]
    exact related
  · intro before request reached
    refine ⟨getElem?_serveAll reached _, ?_, ?_⟩
    · intro failure failed
      exact failures_of_serve_eq_failed failed
    · intro lowers
      refine ⟨serve_eq_of_start lowers _, ?_⟩
      intro determined other
      exact determined.alike_serve options lowers _ _

namespace Memory

/-- A tree that ends with a fatal error, and then a file that is as it should be. Failures are asked
for in the end. -/
def sampleRequests : List Request :=
  [.scope treeWithUnknownType, .declaration (file "/a" 10 [] a_ne_empty), .failures]

/-- The same file, but so that it cannot be built. -/
def refusedRequest : Request :=
  .declaration (file "/a" 12 [("fail", .string "plain")] a_ne_empty)

end Memory

/-- The failure that came before the fatal error is handed out, and the one after it is kept. Nobody
can tell from the last reply that there were requests before, but for what was cleaned up. -/
theorem serveAll_sampleRequests :
    Memory.files.Determined (id : Memory.Instance → Memory.Instance) ∧
      let requests := Memory.sampleRequests ++ [Memory.refusedRequest]
      let served := serveAll Memory.files .default requests (.start .empty)
      let session := (serveAll Memory.files .default Memory.sampleRequests (.start .empty)).2
      (served.1.flatMap Reply.handedOut).map Failure.location = [⟨some "site.pp", some 1⟩] ∧
        served.2.failures.map Failure.location = [⟨some "site.pp", some 12⟩] ∧
        (∃ attempted, attempted.Sublist (requests.flatMap Request.declarations) ∧
          FailuresOf .default attempted (callsServing Memory.files .default requests .empty)
            (served.1.flatMap Reply.handedOut ++ served.2.failures)) ∧
        Reply.Alike (id : Memory.Instance → Memory.Instance)
          (serve Memory.files .default Memory.refusedRequest session).1
          (serve Memory.files .default Memory.refusedRequest (.start .empty)).1 := by
  have determined : Memory.files.Determined (id : Memory.Instance → Memory.Instance) :=
    Memory.determined _
  rcases serveAll_forgets_all_but_failures Memory.files .default
    (Memory.sampleRequests ++ [Memory.refusedRequest]) .empty id with ⟨failures, replies⟩
  rcases replies Memory.sampleRequests Memory.refusedRequest (List.prefix_refl _) with
    ⟨_, _, reply⟩
  have lowers : Memory.refusedRequest ≠ .failures := by simp [Memory.refusedRequest]
  exact ⟨determined, by decide +kernel, by decide +kernel, failures,
    (reply lowers).2 determined .empty⟩

/-- What a failure finds under its name is not the same in all worlds. After a file was built, the
next declaration of the same file fails and destroys it. A new session in an empty world fails in
the same way, but finds nothing to destroy. -/
theorem exists_reply_ne_start :
    Memory.files.Determined (id : Memory.Instance → Memory.Instance) ∧
      let built : Request := .declaration (Memory.file "/a" 1 [] Memory.a_ne_empty)
      let session := (serveAll Memory.files .default [built] (.start .empty)).2
      ∃ failure failure',
        (serve Memory.files .default Memory.refusedRequest session).1 =
            .resolution (.failed failure) ∧
          (serve Memory.files .default Memory.refusedRequest (.start .empty)).1 =
            .resolution (.failed failure') ∧
          failure.cleanup = .destroyedRetrieved ∧ failure'.cleanup = .nothing :=
  ⟨Memory.determined _, _, _, rfl, rfl, rfl, rfl⟩

end Manifest
