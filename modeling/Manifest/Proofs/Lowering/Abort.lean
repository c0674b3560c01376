import Mathlib.Data.List.TakeWhile
import Manifest.Proofs.Lowering.Transcript

/-!
# Fatal errors

A tree cannot be lowered if some scope in it has no name or some declaration asks for a type that
is not known, and for no other reason. `Scope.places` lists what stands in a tree, depth first, and
`Place.fault?` tells what is wrong with a place by itself; the run ends with what is wrong with the
first faulty place.

The run on a tree is compared with the run on the tree that ends just before the first faulty place
(`Scope.before`). Both do the same, and when the second one is done the first one meets the fault
(`StopsAtFault`, with one lemma for each kind of child). The induction needs to know that every
identity in the name table has a known type, since the type of a declaration that is merged is not
looked up again.
-/

namespace Manifest

variable {σ ι : Type}

/-- What stands at one place of a tree: a declaration, or a scope without its contents. -/
inductive Place where
  | declaration (declaration : Declaration)
  | scope (name scopeType : Option String) (location : Location)

mutual

/-- The places of a tree, depth first and in order. A scope comes before what stands in it. -/
def Scope.places : Scope → List Place
  | ⟨name, scopeType, location, _, children⟩ =>
      .scope name scopeType location :: Scope.placesIn children

def Scope.placesIn : List Child → List Place
  | [] => []
  | .declaration declaration :: rest => .declaration declaration :: Scope.placesIn rest
  | .scope scope :: rest => scope.places ++ Scope.placesIn rest

end

mutual

/-- The tree up to the first place under its root at which to stop. That place and all that comes
after it are left out, and the scopes that are open there end there. -/
def Scope.before (stops : Place → Bool) : Scope → Scope
  | ⟨name, scopeType, location, defaults, children⟩ =>
      ⟨name, scopeType, location, defaults, Scope.childrenBefore stops children⟩

def Scope.childrenBefore (stops : Place → Bool) : List Child → List Child
  | [] => []
  | .declaration declaration :: rest =>
      if stops (.declaration declaration) then []
      else .declaration declaration :: Scope.childrenBefore stops rest
  | .scope scope :: rest =>
      if stops (.scope scope.name scope.scopeType scope.location) then []
      else if (Scope.placesIn scope.children).any stops then [.scope (scope.before stops)]
      else .scope scope :: Scope.childrenBefore stops rest

end

namespace Place

/-- The fatal error that a place gives rise to by itself. -/
def fault? (provider : Provider σ ι) : Place → Option LoweringError
  | .declaration content =>
      match provider.lookup content.resourceType with
      | none => some (.unknownType content.identity content.location)
      | some _ => none
  | .scope none scopeType location => some (.missingScopeName scopeType location)
  | .scope (some _) _ _ => none

def isFaulty (provider : Provider σ ι) (place : Place) : Bool :=
  (place.fault? provider).isSome

theorem fault?_recording (provider : Provider σ ι) :
    Place.fault? provider.recording = Place.fault? provider := by
  funext place
  cases place with
  | declaration content =>
      simp only [fault?, Provider.recording]
      cases provider.lookup content.resourceType <;> rfl
  | scope name scopeType location => cases name <;> rfl

theorem any_isFaulty_eq (provider : Provider σ ι) (places : List Place) :
    places.any (isFaulty provider) = (places.findSome? (fault? provider)).isSome := by
  induction places with
  | nil => rfl
  | cons place rest ih =>
      rw [List.any_cons, List.findSome?_cons, ih, isFaulty]
      cases place.fault? provider <;> rfl

end Place

namespace Scope

variable {stops : Place → Bool}

theorem places_eq (scope : Scope) :
    scope.places = .scope scope.name scope.scopeType scope.location :: placesIn scope.children := by
  cases scope
  rw [places]

theorem before_eq (scope : Scope) :
    scope.before stops = { scope with children := childrenBefore stops scope.children } := by
  cases scope
  rw [before]

theorem takeWhile_append_of_any {places : List Place} (inside : places.any stops = true)
    (rest : List Place) :
    ((places ++ rest).takeWhile fun place => !stops place) =
      places.takeWhile fun place => !stops place := by
  rw [List.takeWhile_append, if_neg]
  intro whole
  rcases List.any_eq_true.1 inside with ⟨place, present, stop⟩
  have passed := List.takeWhile_eq_self_iff.1 ((List.takeWhile_prefix _).eq_of_length whole) place
    present
  simp [stop] at passed

theorem placesIn_childrenBefore (children : List Child) :
    placesIn (childrenBefore stops children) =
      (placesIn children).takeWhile fun place => !stops place := by
  induction children using children_induction with
  | nil => rfl
  | declaration declaration rest ih =>
      rw [childrenBefore, placesIn, List.takeWhile_cons]
      by_cases stop : stops (.declaration declaration) = true
      · simp [stop, placesIn]
      · simp [stop, placesIn, ih]
  | scope scope rest ihInner ihRest =>
      rw [childrenBefore, placesIn, places_eq, List.cons_append, List.takeWhile_cons]
      by_cases stop : stops (.scope scope.name scope.scopeType scope.location) = true
      · simp [stop, placesIn]
      · by_cases inside : (placesIn scope.children).any stops = true
        · rw [takeWhile_append_of_any inside, ← ihInner]
          simp [stop, inside, placesIn, places_eq, before_eq]
        · have passed : ∀ place ∈ placesIn scope.children, (!stops place) = true := by
            intro place present
            by_contra stopped
            exact inside (List.any_eq_true.2 ⟨place, present, by simpa using stopped⟩)
          rw [List.takeWhile_append_of_pos passed, ← ihRest]
          simp [stop, inside, placesIn, places_eq]

end Scope

variable {provider : Provider σ ι} {options : Options}

/-- Every identity in the name table has a type that is known. -/
def Contents.Known (provider : Provider σ ι) (contents : Contents ι) : Prop :=
  ∀ identity position, contents.positions.get? identity = some position →
    ∃ resourceType, provider.lookup identity.resourceType = some resourceType

theorem Contents.known_empty : (empty : Contents ι).Known provider := by
  intro identity position kept
  simp [empty, Dictionary.empty, Dictionary.get?, Entries.lookup] at kept

theorem Contents.Known.addResource {contents : Contents ι} (known : contents.Known provider)
    {resource : RealizedResource ι} {resourceType : ResourceType σ ι}
    (found : provider.lookup resource.identity.resourceType = some resourceType) :
    (contents.addResource resource).Known provider := by
  intro identity position kept
  rw [Contents.addResource, Dictionary.get?_insert] at kept
  split at kept
  · next same => exact ⟨resourceType, same ▸ found⟩
  · exact known identity position kept

theorem exists_placeDeclaration_eq_ok (options : Options) {declaration : Declaration}
    {contents : Contents ι} (known : contents.Known provider) {resourceType : ResourceType σ ι}
    (found : provider.lookup declaration.resourceType = some resourceType) (scope : String)
    (session : Session σ) :
    ∃ next after, placeDeclaration provider options scope declaration contents session =
      (.ok next, after) ∧ next.Known provider := by
  cases kept : contents.positions.get? declaration.identity with
  | some position =>
      simp only [placeDeclaration, kept]
      split
      · exact ⟨_, _, rfl, known⟩
      · exact ⟨_, _, rfl, known⟩
  | none =>
      rcases constructed : resourceType.construct declaration.attributes session.world with
        ⟨error | handle, world⟩
      · simp only [placeDeclaration, kept, resolveDeclaration, found, constructed,
          Outcome.andThen]
        exact ⟨_, _, rfl, known⟩
      · simp only [placeDeclaration, kept, resolveDeclaration, found, constructed,
          Outcome.andThen]
        exact ⟨_, _, rfl, known.addResource found⟩

/-- A declaration of an unknown type ends the run, also if its identity was declared before: an
identity in the name table has a type that is known. -/
theorem placeDeclaration_eq_error {declaration : Declaration} {contents : Contents ι}
    (known : contents.Known provider) (missing : provider.lookup declaration.resourceType = none)
    (scope : String) (session : Session σ) :
    placeDeclaration provider options scope declaration contents session =
      (.error (.unknownType declaration.identity declaration.location), session) := by
  have fresh : contents.positions.get? declaration.identity = none := by
    cases kept : contents.positions.get? declaration.identity with
    | none => rfl
    | some position =>
        rcases known _ _ kept with ⟨resourceType, found⟩
        rw [show declaration.identity.resourceType = declaration.resourceType from rfl,
          missing] at found
        contradiction
  simp only [placeDeclaration, fresh, resolveDeclaration, missing, Outcome.andThen]

/-- The children up to the first fault are lowered to the end, and where that run ends the run on
all children ends as well, either with the fault or in the same way. -/
def StopsAtFault (provider : Provider σ ι) (options : Options) (scope : String)
    (children : List Child) (contents : Contents ι) (session : Session σ) : Prop :=
  ∃ final last,
    resolveChildren provider options scope
        (Scope.childrenBefore (Place.isFaulty provider) children) contents session =
      (.ok final, last) ∧
    resolveChildren provider options scope children contents session =
      (((Scope.placesIn children).findSome? (Place.fault? provider)).elim (.ok final) .error,
        last)

namespace StopsAtFault

variable {scope : String} {rest : List Child} {contents : Contents ι} {session : Session σ}

theorem nil : StopsAtFault provider options scope [] contents session :=
  ⟨contents, session, rfl, rfl⟩

theorem declaration (known : contents.Known provider) (content : Declaration)
    (further : ∀ next after, next.Known provider →
      StopsAtFault provider options scope rest next after) :
    StopsAtFault provider options scope (.declaration content :: rest) contents session := by
  cases found : provider.lookup content.resourceType with
  | none =>
      have fault : Place.fault? provider (.declaration content) =
          some (.unknownType content.identity content.location) := by
        simp only [Place.fault?, found]
      refine ⟨contents, session, ?_, ?_⟩
      · simp only [Scope.childrenBefore, Place.isFaulty, fault, Option.isSome_some, if_true,
          resolveChildren]
      · simp only [resolveChildren, placeDeclaration_eq_error known found, Outcome.andThen,
          Scope.placesIn, List.findSome?_cons, fault, Option.elim]
  | some resourceType =>
      have fault : Place.fault? provider (.declaration content) = none := by
        simp only [Place.fault?, found]
      rcases exists_placeDeclaration_eq_ok options known found scope session with
        ⟨next, after, placed, knownNext⟩
      rcases further next after knownNext with ⟨final, last, short, whole⟩
      refine ⟨final, last, ?_, ?_⟩
      · simp only [Scope.childrenBefore, Place.isFaulty, fault, Option.isSome_none,
          Bool.false_eq_true, if_false, resolveChildren, placed, Outcome.andThen]
        exact short
      · simp only [resolveChildren, placed, Outcome.andThen, whole, Scope.placesIn,
          List.findSome?_cons, fault]

theorem unnamed (scopeType : Option String) (location : Location) (defaults : Option Attributes)
    (inner : List Child) :
    StopsAtFault provider options scope
      (.scope ⟨none, scopeType, location, defaults, inner⟩ :: rest) contents session := by
  refine ⟨contents, session, ?_, ?_⟩
  · simp only [Scope.childrenBefore, Place.isFaulty, Place.fault?, Option.isSome_some, if_true,
      resolveChildren]
  · simp only [resolveChildren, resolveScope, Outcome.andThen, Scope.placesIn, Scope.places,
      List.cons_append, List.findSome?_cons, Place.fault?, Option.elim]

theorem named (known : contents.Known provider) {name : String} (scopeType : Option String)
    (location : Location) {defaults : Option Attributes} {inner : List Child}
    (within : StopsAtFault provider options name inner .empty
      (openContainer name scopeType defaults session).2)
    (further : ∀ next after, next.Known provider →
      StopsAtFault provider options scope rest next after) :
    StopsAtFault provider options scope
      (.scope ⟨some name, scopeType, location, defaults, inner⟩ :: rest) contents session := by
  rcases within with ⟨filled, after, shortInner, wholeInner⟩
  have clean : Place.fault? provider (.scope (some name) scopeType location) = none := rfl
  have stops := Place.any_isFaulty_eq provider (Scope.placesIn inner)
  -- what the nested scope becomes if it is lowered to the end
  let container : Realized ι := ⟨name, scopeType, location,
    (openContainer name scopeType defaults session).1, filled.children⟩
  cases inside : (Scope.placesIn inner).findSome? (Place.fault? provider) with
  | some fault =>
      rw [inside] at stops wholeInner
      refine ⟨contents.addContainer container, after, ?_, ?_⟩
      · simp only [Scope.childrenBefore, Place.isFaulty, clean, Option.isSome_none,
          Bool.false_eq_true, if_false, stops, Option.isSome_some, if_true, Scope.before,
          resolveChildren, resolveScope, shortInner, Outcome.andThen, container]
      · simp only [resolveChildren, resolveScope, wholeInner, Outcome.andThen, Scope.placesIn,
          Scope.places, List.cons_append, List.findSome?_cons, clean, List.findSome?_append,
          inside, Option.some_or, Option.elim]
  | none =>
      rw [inside] at stops wholeInner
      have knownAfter : (contents.addContainer container).Known provider := known
      rcases further _ after knownAfter with ⟨final, last, short, whole⟩
      refine ⟨final, last, ?_, ?_⟩
      · simp only [Scope.childrenBefore, Place.isFaulty, clean, Option.isSome_none,
          Bool.false_eq_true, if_false, stops, resolveChildren, resolveScope, wholeInner,
          Outcome.andThen, Option.elim]
        exact short
      · simp only [resolveChildren, resolveScope, wholeInner, Outcome.andThen, Scope.placesIn,
          Scope.places, List.cons_append, List.findSome?_cons, clean, List.findSome?_append,
          inside, Option.none_or, Option.elim]
        exact whole

end StopsAtFault

theorem stopsAtFault (options : Options) (children : List Child) {contents : Contents ι}
    (known : contents.Known provider) (scope : String) (session : Session σ) :
    StopsAtFault provider options scope children contents session := by
  induction children using Scope.children_induction generalizing scope contents session with
  | nil => exact .nil
  | declaration content rest ih =>
      apply StopsAtFault.declaration known
      intro next after knownNext
      exact ih knownNext scope after
  | scope nested rest ihNested ihRest =>
      rcases nested with ⟨name, scopeType, location, defaults, inner⟩
      cases name with
      | none => exact .unnamed scopeType location defaults inner
      | some name =>
          apply StopsAtFault.named known scopeType location
          · exact ihNested Contents.known_empty name _
          · intro next after knownNext
            exact ihRest knownNext scope after

/-- The tree up to the first fault under its root is lowered to the end, and the run on the whole
tree does the same and then meets the fault, if there is one. -/
theorem exists_lower_before (provider : Provider σ ι) (options : Options) {scope : Scope}
    {name : String} (named : scope.name = some name) (world : σ) :
    ∃ lowered short whole,
      lower provider options (scope.before (Place.isFaulty provider)) world = (.ok lowered, short) ∧
      lower provider options scope world =
        ((scope.places.findSome? (Place.fault? provider)).elim (.ok lowered) .error, whole) ∧
      whole.world = short.world := by
  rcases scope with ⟨_, scopeType, location, defaults, children⟩
  subst named
  rcases stopsAtFault options children Contents.known_empty name
    (openContainer name scopeType defaults (.start world)).2 with ⟨filled, last, short, whole⟩
  have clean : Place.fault? provider (.scope (some name) scopeType location) = none := rfl
  have root : (Scope.places ⟨some name, scopeType, location, defaults, children⟩).findSome?
      (Place.fault? provider) = (Scope.placesIn children).findSome? (Place.fault? provider) := by
    rw [Scope.places, List.findSome?_cons, clean]
  refine ⟨⟨⟨name, scopeType, location, (openContainer name scopeType defaults (.start world)).1,
    filled.children⟩, last.failures⟩, { last with failures := [] }, ?_⟩
  rw [root]
  cases found : (Scope.placesIn children).findSome? (Place.fault? provider) with
  | none =>
      rw [found] at whole
      refine ⟨{ last with failures := [] }, ?_, ?_, rfl⟩
      · simp only [lower, Scope.before, resolveScope, short, Outcome.andThen, Session.takeFailures]
      · simp only [lower, resolveScope, whole, Option.elim, Outcome.andThen, Session.takeFailures]
  | some fault =>
      rw [found] at whole
      refine ⟨last, ?_, ?_, rfl⟩
      · simp only [lower, Scope.before, resolveScope, short, Outcome.andThen, Session.takeFailures]
      · simp only [lower, resolveScope, whole, Option.elim, Outcome.andThen]

theorem places_before {scope : Scope} {name : String} (named : scope.name = some name) :
    (scope.before (Place.isFaulty provider)).places =
      scope.places.takeWhile fun place => !place.isFaulty provider := by
  rw [Scope.before_eq, Scope.places_eq, Scope.places_eq, Scope.placesIn_childrenBefore, named]
  rfl

theorem lower_eq_error_of_unnamed {scope : Scope} (unnamed : scope.name = none) (world : σ) :
    lower provider options scope world =
      (.error (.missingScopeName scope.scopeType scope.location), .start world) := by
  rcases scope with ⟨_, scopeType, location, defaults, children⟩
  subst unnamed
  rfl

/-- The fatal error of a run is that of the first faulty place. -/
theorem exists_lower_eq_error_iff (scope : Scope) (world : σ) (fault : LoweringError) :
    (∃ session, lower provider options scope world = (.error fault, session)) ↔
      scope.places.findSome? (Place.fault? provider) = some fault := by
  cases named : scope.name with
  | none =>
      rw [lower_eq_error_of_unnamed named, Scope.places_eq, named, List.findSome?_cons]
      simp [Place.fault?]
  | some name =>
      rcases exists_lower_before provider options named world with
        ⟨lowered, short, whole, _, run, _⟩
      rw [run]
      cases scope.places.findSome? (Place.fault? provider) <;> simp

/-- A run ends with a fatal error if and only if a scope in the tree has no name or a declaration in
it is of an unknown type. The error is that of the first such place, and the calls are those of the
run on the tree up to that place, if there is anything before it. -/
theorem lower_stops_at_first_fault (provider : Provider σ ι) (options : Options) (scope : Scope)
    (world : σ) :
    ((∃ fault session, lower provider options scope world = (.error fault, session)) ↔
        ∃ place ∈ scope.places, (place.fault? provider).isSome) ∧
      ∀ fault session, lower provider options scope world = (.error fault, session) →
        scope.places.findSome? (Place.fault? provider) = some fault ∧
          ((scope.name = none ∧ callsOf provider options scope world = []) ∨
            ((scope.before (Place.isFaulty provider)).places =
                (scope.places.takeWhile fun place => !place.isFaulty provider) ∧
              (∃ lowered short, lower provider options (scope.before (Place.isFaulty provider))
                world = (.ok lowered, short)) ∧
              callsOf provider options scope world =
                callsOf provider options (scope.before (Place.isFaulty provider)) world)) := by
  constructor
  · simp only [exists_lower_eq_error_iff, ← Option.isSome_iff_exists, List.findSome?_isSome_iff]
  · intro fault session run
    refine ⟨(exists_lower_eq_error_iff scope world fault).1 ⟨session, run⟩, ?_⟩
    cases named : scope.name with
    | none =>
        left
        refine ⟨rfl, ?_⟩
        rw [callsOf, lower_eq_error_of_unnamed named]
        rfl
    | some name =>
        right
        rcases exists_lower_before provider options named world with
          ⟨lowered, short, _, ended, _⟩
        refine ⟨places_before named, ⟨lowered, short, ended⟩, ?_⟩
        have sameFaults : Place.isFaulty provider.recording = Place.isFaulty provider := by
          funext place
          rw [Place.isFaulty, Place.isFaulty, Place.fault?_recording]
        rcases exists_lower_before provider.recording options named ⟨world, []⟩ with
          ⟨_, recordedShort, recordedWhole, endedRecorded, ranRecorded, same⟩
        rw [sameFaults] at endedRecorded
        rw [callsOf, callsOf, endedRecorded, ranRecorded, same]

/-- A tree in which a failure and a merged declaration come before a declaration of a type that is
not known, and another one after it. -/
def Memory.treeWithUnknownType : Scope :=
  { Scope.named "main" with children := [
    .declaration (file "/a" 1 [("fail", .string "partial")] a_ne_empty),
    .declaration (file "/b" 2 [] b_ne_empty),
    .scope { Scope.named "inner" with children := [
      .declaration (file "/b" 4 [] b_ne_empty),
      .declaration (file "/b" 5 [("mode", .integer 644)] b_ne_empty),
      .declaration { file "/b" 6 [] b_ne_empty with
        identity := ⟨"cron", "/b"⟩
        resourceType_ne_empty := (by decide : "cron" ≠ "")
        name_ne_empty := b_ne_empty
        head?_entries := (by decide) },
      .declaration (file "/c" 7 [] c_ne_empty)] },
    .declaration (file "/z" 8 [] (by decide))] }

/-- The error is that of the declaration in line 6, and the calls are those of the tree that ends in
the inner scope with line 5: two constructions with a failure to clean up after, and a third one
with an attribute to set. -/
theorem lower_treeWithUnknownType :
    ∃ fault session,
      lower Memory.files .default Memory.treeWithUnknownType .empty = (.error fault, session) ∧
        fault = .unknownType ⟨"cron", "/b"⟩ ⟨some "site.pp", some 6⟩ ∧
        (callsOf Memory.files .default Memory.treeWithUnknownType .empty).length = 7 ∧
        callsOf Memory.files .default Memory.treeWithUnknownType .empty =
          callsOf Memory.files .default
            (Memory.treeWithUnknownType.before (Place.isFaulty Memory.files)) .empty := by
  refine ⟨_, _, rfl, rfl, rfl, ?_⟩
  have stopped := (lower_stops_at_first_fault Memory.files .default Memory.treeWithUnknownType
    .empty).2 _ _ rfl
  rcases stopped.2 with ⟨unnamed, _⟩ | ⟨_, _, sameCalls⟩
  · contradiction
  · exact sameCalls

end Manifest
