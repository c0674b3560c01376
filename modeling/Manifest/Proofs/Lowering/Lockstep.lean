import Mathlib.Data.List.Forall2
import Manifest.Proofs.Lowering.Additive

/-!
# Two runs in lockstep

Two runs over trees of the same shape go side by side: they come to the same kind of child at the
same time, find the same identities in their name tables, and stop at the same place if there is a
fatal error. What has to be alike in the two runs, and how much, is a matter of choice, which is
made by a `Coupling`: which declarations, which attributes of scopes, which instances, which
failures and which sessions count as alike.

A coupling works if each single step leads from what is alike to what is alike (`Lockstep`). Then
so do whole runs: `Lockstep.resolveChildren` is the induction, and what the two runs return are
trees that mirror each other (`Mirrors`) or the same fatal error (`Outcome.Related`).
-/

namespace Manifest

variable {σ ι α β γ δ : Type}

/-- Two outcomes are the same fatal error or results that are alike, in sessions that are alike. -/
inductive Outcome.Related (results : α → β → Prop) (sessions : Session σ → Session σ → Prop) :
    Outcome σ α → Outcome σ β → Prop where
  | failed {fault : LoweringError} {first second : Session σ} (met : sessions first second) :
      Related results sessions (.error fault, first) (.error fault, second)
  | done {result : α} {result' : β} {first second : Session σ} (same : results result result')
      (met : sessions first second) :
      Related results sessions (.ok result, first) (.ok result', second)

namespace Outcome.Related

variable {results : α → β → Prop} {results' : γ → δ → Prop}
  {sessions : Session σ → Session σ → Prop}

theorem andThen {first : Outcome σ α} {second : Outcome σ β}
    {next : α → Session σ → Outcome σ γ} {next' : β → Session σ → Outcome σ δ}
    (related : Related results sessions first second)
    (further : ∀ {result result' session session'}, results result result' →
      sessions session session' →
      Related results' sessions (next result session) (next' result' session')) :
    Related results' sessions (first.andThen next) (second.andThen next') := by
  cases related with
  | failed met => exact .failed met
  | done same met => exact further same met

theorem met {first : Outcome σ α} {second : Outcome σ β}
    (related : Related results sessions first second) : sessions first.2 second.2 := by
  cases related with
  | failed met => exact met
  | done same met => exact met

end Outcome.Related

/-! ### Trees that mirror each other -/

/-- Two lists of children have the same resources and containers in the same places. Instances and
the attributes of containers need only be alike. -/
inductive Mirrors (instances : ι → ι → Prop) (mappings : Attributes → Attributes → Prop) :
    List (RealizedChild ι) → List (RealizedChild ι) → Prop where
  | nil : Mirrors instances mappings [] []
  | resource {identity : Identity} {location : Location} {parent : Option String}
      {handle handle' : ι} {rest rest' : List (RealizedChild ι)} (same : instances handle handle')
      (tail : Mirrors instances mappings rest rest') :
      Mirrors instances mappings (.resource ⟨identity, location, parent, handle⟩ :: rest)
        (.resource ⟨identity, location, parent, handle'⟩ :: rest')
  | container {name : String} {scopeType : Option String} {location : Location}
      {attributes attributes' : Attributes} {inner inner' rest rest' : List (RealizedChild ι)}
      (described : mappings attributes attributes')
      (within : Mirrors instances mappings inner inner')
      (tail : Mirrors instances mappings rest rest') :
      Mirrors instances mappings
        (.container ⟨name, scopeType, location, attributes, inner⟩ :: rest)
        (.container ⟨name, scopeType, location, attributes', inner'⟩ :: rest')

namespace Mirrors

variable {instances : ι → ι → Prop} {mappings : Attributes → Attributes → Prop}
  {left right more more' : List (RealizedChild ι)}

theorem append (mirrors : Mirrors instances mappings left right)
    (further : Mirrors instances mappings more more') :
    Mirrors instances mappings (left ++ more) (right ++ more') := by
  induction mirrors with
  | nil => exact further
  | resource same tail ih => exact .resource same ih
  | container described within tail _ ih => exact .container described within ih

theorem length_eq (mirrors : Mirrors instances mappings left right) :
    left.length = right.length := by
  induction mirrors with
  | nil => rfl
  | resource same tail ih => simp [ih]
  | container described within tail _ ih => simp [ih]

/-- At each position there is nothing on both sides, a resource on both or a container on both. -/
theorem getElem? (mirrors : Mirrors instances mappings left right) (position : Nat) :
    (left[position]? = none ∧ right[position]? = none) ∨
      (∃ identity location parent handle handle', instances handle handle' ∧
        left[position]? = some (.resource ⟨identity, location, parent, handle⟩) ∧
        right[position]? = some (.resource ⟨identity, location, parent, handle'⟩)) ∨
      ∃ container container', left[position]? = some (.container container) ∧
        right[position]? = some (.container container') := by
  induction mirrors generalizing position with
  | nil => simp
  | @resource identity location parent handle handle' _ _ same tail ih =>
      cases position with
      | zero =>
          right
          left
          exact ⟨identity, location, parent, handle, handle', same, rfl, rfl⟩
      | succ position => simpa using ih position
  | container described within tail _ ih =>
      cases position with
      | zero =>
          right
          right
          exact ⟨_, _, rfl, rfl⟩
      | succ position => simpa using ih position

theorem set (mirrors : Mirrors instances mappings left right) (position : Nat)
    {identity : Identity} {location : Location} {parent : Option String} {handle handle' : ι}
    (same : instances handle handle') :
    Mirrors instances mappings
      (left.set position (.resource ⟨identity, location, parent, handle⟩))
      (right.set position (.resource ⟨identity, location, parent, handle'⟩)) := by
  induction mirrors generalizing position with
  | nil => exact .nil
  | resource before tail ih =>
      cases position with
      | zero => exact .resource same tail
      | succ position => exact .resource before (ih position)
  | container described within tail _ ih =>
      cases position with
      | zero => exact .resource same tail
      | succ position => exact .container described within (ih position)

theorem eq (mirrors : Mirrors Eq Eq left right) : left = right := by
  induction mirrors with
  | nil => rfl
  | resource same tail ih => rw [same, ih]
  | container described within tail ihWithin ihTail => rw [described, ihWithin, ihTail]

end Mirrors

/-- Two containers that are the same but for what `Mirrors` leaves open. -/
def Realized.Mirrors (instances : ι → ι → Prop) (mappings : Attributes → Attributes → Prop)
    (left right : Realized ι) : Prop :=
  Manifest.Mirrors instances mappings [.container left] [.container right]

theorem Realized.Mirrors.eq {left right : Realized ι} (mirrors : left.Mirrors Eq Eq right) :
    left = right := by
  have same := Manifest.Mirrors.eq mirrors
  simpa using same

/-! ### Couplings -/

/-- What counts as alike in two runs. -/
structure Coupling (σ ι : Type) where
  declarations : Declaration → Declaration → Prop
  mappings : Attributes → Attributes → Prop
  instances : ι → ι → Prop
  failures : Failure → Failure → Prop
  sessions : Session σ → Session σ → Prop

/-- Two lists of children have the same shape. Declarations and defaults need only be alike. -/
inductive Parallel (declarations : Declaration → Declaration → Prop)
    (mappings : Attributes → Attributes → Prop) : List Child → List Child → Prop where
  | nil : Parallel declarations mappings [] []
  | declaration {first second : Declaration} {rest rest' : List Child}
      (same : declarations first second) (tail : Parallel declarations mappings rest rest') :
      Parallel declarations mappings (.declaration first :: rest) (.declaration second :: rest')
  | scope {name scopeType : Option String} {location : Location}
      {defaults defaults' : Option Attributes} {inner inner' rest rest' : List Child}
      (described : Option.Rel mappings defaults defaults')
      (within : Parallel declarations mappings inner inner')
      (tail : Parallel declarations mappings rest rest') :
      Parallel declarations mappings
        (.scope ⟨name, scopeType, location, defaults, inner⟩ :: rest)
        (.scope ⟨name, scopeType, location, defaults', inner'⟩ :: rest')

theorem Option.Rel.refl_of {mappings : α → α → Prop}
    (reflexive : ∀ content, mappings content content) (content? : Option α) :
    Option.Rel mappings content? content? := by
  cases content? with
  | none => exact .none
  | some content => exact .some (reflexive content)

theorem Option.Rel.eq_of_eq {first second : Option α} (same : Option.Rel Eq first second) :
    first = second := by
  cases same with
  | none => rfl
  | some same => rw [same]

theorem Parallel.refl {declarations : Declaration → Declaration → Prop}
    {mappings : Attributes → Attributes → Prop} (same : ∀ content, declarations content content)
    (described : ∀ attributes, mappings attributes attributes) (children : List Child) :
    Parallel declarations mappings children children := by
  induction children using Scope.children_induction with
  | nil => exact .nil
  | declaration content rest ih => exact .declaration (same content) ih
  | scope scope rest ihInner ihRest =>
      rcases scope with ⟨_, _, _, _, _⟩
      exact .scope (Option.Rel.refl_of described _) ihInner ihRest

/-- What has become of two declarations is alike. -/
inductive Resolution.Related (instances : ι → ι → Prop) (failures : Failure → Failure → Prop) :
    Resolution ι → Resolution ι → Prop where
  | realized {identity : Identity} {location : Location} {parent : Option String}
      {handle handle' : ι} (same : instances handle handle') :
      Related instances failures (.realized ⟨identity, location, parent, handle⟩)
        (.realized ⟨identity, location, parent, handle'⟩)
  | failed {failure failure' : Failure} (same : failures failure failure') :
      Related instances failures (.failed failure) (.failed failure')

/-- Two contents keep the same positions and hold children that mirror each other. -/
def Contents.Mirrors (instances : ι → ι → Prop) (mappings : Attributes → Attributes → Prop)
    (left right : Contents ι) : Prop :=
  left.positions = right.positions ∧
    Manifest.Mirrors instances mappings left.children right.children

/-- Each step of lowering leads from what is alike to what is alike. -/
structure Lockstep (provider : Provider σ ι) (options options' : Options)
    (coupling : Coupling σ ι) : Prop where
  identity_eq : ∀ {first second : Declaration}, coupling.declarations first second →
    first.identity = second.identity
  seeds : ∀ {defaults defaults' : Option Attributes},
    Option.Rel coupling.mappings defaults defaults' → ∀ name scopeType,
      coupling.mappings (seedAttributes name scopeType defaults)
        (seedAttributes name scopeType defaults')
  opens : ∀ {defaults defaults' : Option Attributes} {session session' : Session σ},
    Option.Rel coupling.mappings defaults defaults' → coupling.sessions session session' →
      ∀ name scopeType,
        coupling.sessions (session.noteAll (openingEvents name scopeType defaults))
          (session'.noteAll (openingEvents name scopeType defaults'))
  resolves : ∀ {first second : Declaration} {session session' : Session σ},
    coupling.declarations first second → coupling.sessions session session' →
      Outcome.Related (Resolution.Related coupling.instances coupling.failures) coupling.sessions
        (resolveDeclaration provider options first session)
        (resolveDeclaration provider options' second session')
  merges : ∀ {first second : Declaration} {handle handle' : ι} {session session' : Session σ},
    coupling.declarations first second → coupling.instances handle handle' →
      coupling.sessions session session' → ∀ identity,
        coupling.instances
            (mergeAttributes provider identity first.attributes.entries handle session).1
            (mergeAttributes provider identity second.attributes.entries handle' session').1 ∧
          coupling.sessions
            (mergeAttributes provider identity first.attributes.entries handle session).2
            (mergeAttributes provider identity second.attributes.entries handle' session').2

namespace Lockstep

variable {provider : Provider σ ι} {options options' : Options} {coupling : Coupling σ ι}

theorem placeDeclaration (lockstep : Lockstep provider options options' coupling)
    {first second : Declaration} (same : coupling.declarations first second) (scope : String)
    {left right : Contents ι} (mirrors : left.Mirrors coupling.instances coupling.mappings right)
    {session session' : Session σ} (met : coupling.sessions session session') :
    Outcome.Related (Contents.Mirrors coupling.instances coupling.mappings) coupling.sessions
      (placeDeclaration provider options scope first left session)
      (placeDeclaration provider options' scope second right session') := by
  rcases mirrors with ⟨positions, children⟩
  have identities := lockstep.identity_eq same
  cases kept : left.positions.get? first.identity with
  | none =>
      have kept' : right.positions.get? second.identity = none := by
        rw [← positions, ← identities, kept]
      simp only [Manifest.placeDeclaration, kept, kept']
      apply (lockstep.resolves same met).andThen
      intro resolution resolution' after after' alike metAfter
      cases alike with
      | realized sameHandle =>
          refine .done ⟨?_, ?_⟩ metAfter
          · simp only [Contents.addResource, positions, children.length_eq]
          · exact children.append (.resource sameHandle .nil)
      | failed _ => exact .done ⟨positions, children⟩ metAfter
  | some position =>
      have kept' : right.positions.get? second.identity = some position := by
        rw [← positions, ← identities, kept]
      simp only [Manifest.placeDeclaration, kept, kept']
      rcases children.getElem? position with ⟨there, there'⟩ |
        ⟨identity, location, parent, handle, handle', sameHandle, there, there'⟩ |
        ⟨container, container', there, there'⟩
      · simp only [there, there']
        exact .done ⟨positions, children⟩ met
      · simp only [there, there', mergeInto]
        rcases lockstep.merges same sameHandle met identity with ⟨sameMerged, metAfter⟩
        exact .done ⟨positions, children.set position sameMerged⟩ metAfter
      · simp only [there, there']
        exact .done ⟨positions, children⟩ met

theorem resolveScope_of_children (lockstep : Lockstep provider options options' coupling)
    (name scopeType : Option String) (location : Location) {defaults defaults' : Option Attributes}
    {children children' : List Child} (described : Option.Rel coupling.mappings defaults defaults')
    (within : ∀ name {session session'}, coupling.sessions session session' →
      Outcome.Related (Contents.Mirrors coupling.instances coupling.mappings) coupling.sessions
        (resolveChildren provider options name children .empty session)
        (resolveChildren provider options' name children' .empty session'))
    {session session' : Session σ} (met : coupling.sessions session session') :
    Outcome.Related (Realized.Mirrors coupling.instances coupling.mappings) coupling.sessions
      (resolveScope provider options ⟨name, scopeType, location, defaults, children⟩ session)
      (resolveScope provider options' ⟨name, scopeType, location, defaults', children'⟩
        session') := by
  cases name with
  | none => exact .failed met
  | some name =>
      rw [resolveScope_named, resolveScope_named]
      apply (within name (lockstep.opens described met name scopeType)).andThen
      intro contents contents' after after' mirrors metAfter
      exact .done (.container (lockstep.seeds described name scopeType) mirrors.2 .nil) metAfter

theorem resolveChildren (lockstep : Lockstep provider options options' coupling)
    {children children' : List Child}
    (parallel : Parallel coupling.declarations coupling.mappings children children')
    (scope : String) {left right : Contents ι}
    (mirrors : left.Mirrors coupling.instances coupling.mappings right)
    {session session' : Session σ} (met : coupling.sessions session session') :
    Outcome.Related (Contents.Mirrors coupling.instances coupling.mappings) coupling.sessions
      (resolveChildren provider options scope children left session)
      (resolveChildren provider options' scope children' right session') := by
  -- the contents and the sessions vary, since each child leaves others to the next one
  induction parallel generalizing scope left right session session' with
  | nil => exact .done mirrors met
  | declaration same tail ih =>
      simp only [Manifest.resolveChildren]
      apply (lockstep.placeDeclaration same scope mirrors met).andThen
      intro next next' after after' mirrorsNext metAfter
      exact ih scope mirrorsNext metAfter
  | @scope name scopeType location _ _ _ _ _ _ described within tail ihWithin ihTail =>
      simp only [Manifest.resolveChildren]
      have inside := lockstep.resolveScope_of_children name scopeType location described
        (fun name _ _ opened => ihWithin name ⟨rfl, .nil⟩ opened) met
      apply inside.andThen
      intro container container' after after' mirrored metAfter
      have extended : (left.addContainer container).Mirrors coupling.instances coupling.mappings
          (right.addContainer container') := ⟨mirrors.1, mirrors.2.append mirrored⟩
      exact ihTail scope extended metAfter

theorem resolveScope (lockstep : Lockstep provider options options' coupling)
    {left right : Scope}
    (parallel : Parallel coupling.declarations coupling.mappings [.scope left] [.scope right])
    {session session' : Session σ} (met : coupling.sessions session session') :
    Outcome.Related (Realized.Mirrors coupling.instances coupling.mappings) coupling.sessions
      (resolveScope provider options left session)
      (resolveScope provider options' right session') := by
  cases parallel with
  | @scope name scopeType location _ _ _ _ _ _ described within tail =>
      apply lockstep.resolveScope_of_children name scopeType location described _ met
      intro name session session' opened
      exact lockstep.resolveChildren within name ⟨rfl, .nil⟩ opened

end Lockstep

end Manifest
