import Manifest.Proofs.Lowering.Lockstep
import Manifest.Proofs.Lowering.Recounting
import Manifest.Proofs.Provider.Unordered

/-!
# Lowering trees that agree

Two trees agree if they are the same but for the order of attributes and defaults. If a provider
pays no heed to the order of attributes, the runs on both go in lockstep: they build instances that
show the same, keep the same failures but for the text of dumps, and make the same calls but for the
order in which attributes are set. Merging, which sets attributes in another order, is the one place
where the runs come apart for a while. When a declaration is merged, they are together again,
because each attribute has its last value and nothing else has changed (`face_mergeAttributes`).
-/

namespace Manifest

variable {σ ι κ τ : Type} {provider : Provider σ ι} {core : ι → κ} {part : σ → τ}

/-! ### Shapes -/

theorem parallel_of_agreeAll {children children' : List Child}
    (same : Scope.agreeAll children children' = true) :
    Parallel (fun first second => first.agrees second = true)
      (fun left right => left.agrees right = true) children children' := by
  induction children using Scope.children_induction generalizing children' with
  | nil =>
      cases children' with
      | nil => exact .nil
      | cons child rest => simp [Scope.agreeAll] at same
  | declaration declaration rest ih =>
      rcases children' with _ | ⟨other | other, rest'⟩
      · simp [Scope.agreeAll] at same
      · simp only [Scope.agreeAll, Bool.and_eq_true] at same
        exact .declaration same.1 (ih same.2)
      · simp [Scope.agreeAll] at same
  | scope scope rest ihInner ihRest =>
      rcases children' with _ | ⟨other | other, rest'⟩
      · simp [Scope.agreeAll] at same
      · simp [Scope.agreeAll] at same
      · rcases scope with ⟨name, scopeType, location, defaults, children⟩
        rcases other with ⟨name', scopeType', location', defaults', children'⟩
        simp only [Scope.agreeAll, Scope.agrees, Bool.and_eq_true, beq_iff_eq] at same
        rcases same with ⟨⟨⟨⟨⟨rfl, rfl⟩, rfl⟩, described⟩, within⟩, tail⟩
        refine .scope ?_ (ihInner within) (ihRest tail)
        cases defaults with
        | none =>
            cases defaults' with
            | none => exact .none
            | some right => simp at described
        | some left =>
            cases defaults' with
            | none => simp at described
            | some right => exact .some described

theorem agrees_seedAttributes {defaults defaults' : Option Attributes}
    (same : Option.Rel (fun left right => left.agrees right = true) defaults defaults')
    (name : String) (scopeType : Option String) :
    (seedAttributes name scopeType defaults).agrees (seedAttributes name scopeType defaults') =
      true := by
  cases same with
  | none =>
      rw [Dictionary.agrees_iff]
      intro key
      rfl
  | some same => exact Dictionary.agrees_insertAll same _

/-! ### Merging and cleaning up -/

namespace Provider.Unordered

/-- Merging touches neither the core of an instance nor the part of the world that counts. -/
theorem mergeAttributes (unordered : provider.Unordered core part) (identity : Identity)
    (entries : List (String × Value)) (handle : ι) (session : Session σ) :
    core (mergeAttributes provider identity entries handle session).1 = core handle ∧
      part (mergeAttributes provider identity entries handle session).2.world =
        part session.world := by
  induction entries generalizing handle session with
  | nil => exact ⟨rfl, rfl⟩
  | cons entry rest ih =>
      rcases entry with ⟨key, value⟩
      simp only [Manifest.mergeAttributes]
      split
      · exact ih handle session
      · rcases unordered.setAttribute handle key value session.world with ⟨kept, worlds⟩
        rcases ih (provider.operations.setAttribute handle key value session.world).1
          ((session.note (.mergingAttribute identity key)).inWorld
            (provider.operations.setAttribute handle key value session.world).2) with
          ⟨keptRest, worldsRest⟩
        exact ⟨keptRest.trans kept, worldsRest.trans worlds⟩

/-- Merging attributes that agree into instances that show the same leads to such instances. -/
theorem face_mergeAttributes (unordered : provider.Unordered core part) (identity : Identity)
    {left right : Attributes} (same : left.agrees right = true) {handle handle' : ι}
    (faces : provider.face core handle = provider.face core handle')
    (session session' : Session σ) :
    provider.face core
        (Manifest.mergeAttributes provider identity left.entries handle session).1 =
      provider.face core
        (Manifest.mergeAttributes provider identity right.entries handle' session').1 := by
  rcases Prod.ext_iff.1 faces with ⟨cores, attributes⟩
  apply Prod.ext
  · have kept := (unordered.mergeAttributes identity left.entries handle session).1
    have kept' := (unordered.mergeAttributes identity right.entries handle' session').1
    exact kept.trans (cores.trans kept'.symm)
  · -- whatever the order, each key has the value that the attributes agree on
    funext key
    have given : Entries.lookup key left.entries = Entries.lookup key right.entries :=
      Dictionary.agrees_iff.1 same key
    have before : provider.operations.attribute? handle key =
      provider.operations.attribute? handle' key := congrFun attributes key
    simp only [face, attribute?_mergeAttributes unordered.toKeepsAttributes left.distinct,
      attribute?_mergeAttributes unordered.toKeepsAttributes right.distinct, given, before]

theorem cleanUp (unordered : provider.Unordered core part) {name : String}
    {resourceType : ResourceType σ ι} (known : provider.lookup name = some resourceType)
    (identity : Identity) {remains remains' : Option ι}
    (same : remains.map (provider.face core) = remains'.map (provider.face core))
    {session session' : Session σ} (worlds : part session.world = part session'.world) :
    (cleanUp provider resourceType identity remains session).1 =
        (cleanUp provider resourceType identity remains' session').1 ∧
      part (cleanUp provider resourceType identity remains session).2.world =
        part (cleanUp provider resourceType identity remains' session').2.world := by
  rcases remains with _ | handle <;> rcases remains' with _ | handle'
  · rcases unordered.retrieve known worlds identity.name with ⟨kept, after⟩
    simp only [Manifest.cleanUp]
    generalize resourceType.retrieve identity.name session.world = looked at kept after
    generalize resourceType.retrieve identity.name session'.world = looked' at kept after
    rcases looked with ⟨_ | found, world⟩ <;> rcases looked' with ⟨_ | found', world'⟩
    · exact ⟨rfl, after⟩
    · simp at kept
    · simp at kept
    · exact ⟨rfl, unordered.destroy (Option.some.inj kept) after⟩
  · simp at same
  · simp at same
  · exact ⟨rfl, unordered.destroy (Option.some.inj same) worlds⟩

end Provider.Unordered

/-! ### Runs -/

/-- The failure with nothing left of its dump but that there is one. -/
def Failure.withoutDumpText (failure : Failure) : Failure :=
  { failure with dump := failure.dump.map fun _ => "" }

/-- Two runs are alike if they do the same but for the order of attributes. -/
def Coupling.unordered (provider : Provider σ ι) (core : ι → κ) (part : σ → τ) :
    Coupling σ ι where
  declarations first second := first.agrees second = true
  mappings left right := left.agrees right = true
  instances first second := provider.face core first = provider.face core second
  failures first second := first.withoutDumpText = second.withoutDumpText
  sessions first second := part first.world = part second.world ∧
    first.failures.map Failure.withoutDumpText = second.failures.map Failure.withoutDumpText

namespace Provider.Unordered

theorem recordFailure (unordered : provider.Unordered core part) (options : Options)
    {name : String} {resourceType : ResourceType σ ι}
    (known : provider.lookup name = some resourceType) {first second : Declaration}
    (identities : first.identity = second.identity) (locations : first.location = second.location)
    {message : String} {remains remains' : Option ι}
    (same : remains.map (provider.face core) = remains'.map (provider.face core))
    {session session' : Session σ}
    (met : (Coupling.unordered provider core part).sessions session session') :
    let failed := recordFailure provider options resourceType first ⟨message, remains⟩ session
    let failed' := recordFailure provider options resourceType second ⟨message, remains'⟩ session'
    failed.1.withoutDumpText = failed'.1.withoutDumpText ∧
      (Coupling.unordered provider core part).sessions failed.2 failed'.2 := by
  rcases met with ⟨worlds, failures⟩
  have started : part (Session.start session.world).world =
    part (Session.start session'.world).world := worlds
  rcases unordered.cleanUp known second.identity same started with ⟨cleanups, after⟩
  have dumps : (dumpOf options first).map (fun _ => "") =
      (dumpOf options second).map fun _ => "" := by
    unfold dumpOf
    split <;> rfl
  simp only [recordFailure_eq, identities, locations, cleanups]
  refine ⟨?_, after, ?_⟩
  · simp [Failure.withoutDumpText, dumps]
  · simp [Session.followedBy, failures, Failure.withoutDumpText, dumps]

theorem resolveDeclaration (unordered : provider.Unordered core part) (options : Options)
    {first second : Declaration} (same : first.agrees second = true) {session session' : Session σ}
    (met : (Coupling.unordered provider core part).sessions session session') :
    Outcome.Related
      (Resolution.Related (Coupling.unordered provider core part).instances
        (Coupling.unordered provider core part).failures)
      (Coupling.unordered provider core part).sessions
      (resolveDeclaration provider options first session)
      (resolveDeclaration provider options second session') := by
  rcases Declaration.agrees_iff.1 same with ⟨identities, attributes, locations⟩
  have types : first.resourceType = second.resourceType :=
    congrArg Identity.resourceType identities
  cases known : provider.lookup second.resourceType with
  | none =>
      simp only [Manifest.resolveDeclaration, types, known, identities, locations]
      exact .failed met
  | some resourceType =>
      rcases unordered.construct known attributes met.1 with ⟨outcomes, worlds⟩
      simp only [Manifest.resolveDeclaration, types, known]
      generalize resourceType.construct first.attributes session.world = built at outcomes worlds
      generalize resourceType.construct second.attributes session'.world = built'
        at outcomes worlds
      rcases built with ⟨outcome, world⟩
      rcases built' with ⟨outcome', world'⟩
      dsimp only at outcomes worlds
      rcases cases_of_viewOutcome_eq outcomes with ⟨handle, handle', rfl, rfl, faces⟩ |
        ⟨message, remains, remains', rfl, rfl, remaining⟩
      · have located := unordered.face_setLocation faces worlds second.location
        have after := (unordered.setLocation faces worlds second.location).2
        rw [identities, locations]
        exact .done (.realized located) ⟨after, met.2⟩
      · have moved : (Coupling.unordered provider core part).sessions (session.inWorld world)
          (session'.inWorld world') := ⟨worlds, met.2⟩
        rcases unordered.recordFailure options known identities locations remaining moved with
          ⟨failed, recorded⟩
        exact .done (.failed failed) recorded

theorem lockstep (unordered : provider.Unordered core part) (options : Options) :
    Lockstep provider options options (.unordered provider core part) where
  identity_eq same := (Declaration.agrees_iff.1 same).1
  seeds same name scopeType := agrees_seedAttributes same name scopeType
  opens _ met _ _ := met
  resolves same met := unordered.resolveDeclaration options same met
  merges {first second handle handle' session session'} same faces met identity := by
    have attributes := (Declaration.agrees_iff.1 same).2.1
    refine ⟨unordered.face_mergeAttributes identity attributes faces session session', ?_, ?_⟩
    · have unmoved :=
        (unordered.mergeAttributes identity first.attributes.entries handle session).2
      have unmoved' :=
        (unordered.mergeAttributes identity second.attributes.entries handle' session').2
      exact unmoved.trans (met.1.trans unmoved'.symm)
    · rw [mergeAttributes_failures, mergeAttributes_failures]
      exact met.2

/-- The runs on two trees that agree return the same fatal error or trees that mirror each other. -/
theorem related_lower (unordered : provider.Unordered core part) (options : Options)
    {scope scope' : Scope} (same : scope.agrees scope' = true) (world : σ) :
    let run := lower provider options scope world
    let run' := lower provider options scope' world
    Outcome.Related
        (fun lowered lowered' => lowered.root.Mirrors
          (fun first second => provider.face core first = provider.face core second)
          (fun left right => left.agrees right = true) lowered'.root)
        (fun session session' => part session.world = part session'.world) run run' ∧
      (keptFailures run).map Failure.withoutDumpText =
        (keptFailures run').map Failure.withoutDumpText := by
  have parallel : Parallel (fun first second => first.agrees second = true)
      (fun left right => left.agrees right = true) [.scope scope] [.scope scope'] := by
    apply parallel_of_agreeAll
    simpa [Scope.agreeAll] using same
  have started : (Coupling.unordered provider core part).sessions (.start world)
    (.start world) := ⟨rfl, rfl⟩
  have related := (unordered.lockstep options).resolveScope parallel started
  simp only [lower]
  generalize resolveScope provider options scope (.start world) = ended at related
  generalize resolveScope provider options scope' (.start world) = ended' at related
  cases related with
  | failed met => exact ⟨.failed met.1, met.2⟩
  | done mirrors met => exact ⟨.done mirrors met.1, met.2⟩

end Provider.Unordered

/-- Lowering does not tell trees that agree from each other. The runs end with the same fatal error,
or with trees of the same resources, whose instances show the same. The failures are the same but
for the text of dumps, and the calls are the same if it does not count how attributes are set. -/
theorem lower_of_agrees (unordered : provider.Unordered core part) (options : Options)
    {scope scope' : Scope} (same : scope.agrees scope' = true) (world : σ) :
    let run := lower provider options scope world
    let run' := lower provider options scope' world
    Outcome.Related
        (fun lowered lowered' => lowered.root.Mirrors
          (fun first second => provider.face core first = provider.face core second)
          (fun left right => left.agrees right = true) lowered'.root)
        (fun session session' => part session.world = part session'.world) run run' ∧
      (keptFailures run).map Failure.withoutDumpText =
        (keptFailures run').map Failure.withoutDumpText ∧
      (callsOf provider options scope world).filterMap (Call.act? (provider.face core)) =
        (callsOf provider options scope' world).filterMap (Call.act? (provider.face core)) := by
  rcases unordered.related_lower options same world with ⟨related, failures⟩
  rcases unordered.recording.related_lower options same ⟨world, []⟩ with ⟨recorded, _⟩
  exact ⟨related, failures, congrArg Prod.snd recorded.met⟩

/-- A tree with defaults, a merged declaration and one that cannot be built. -/
def Memory.treeInOneOrder : Scope :=
  { Scope.named "main" with
    defaults := some (.ofList [("owner", .string "root"), ("mode", .integer 644)])
    children := [
      .declaration (file "/a" 1 [("mode", .integer 600), ("owner", .string "root")] a_ne_empty),
      .scope { Scope.named "inner" with children := [
        .declaration (file "/b" 3 [("fail", .string "partial"), ("cause", .string "disk full")]
          b_ne_empty)] },
      .declaration (file "/a" 5 [("mode", .integer 644), ("group", .string "wheel")]
        a_ne_empty)] }

/-- The same tree, with all attributes but the names written in the opposite order. -/
def Memory.treeInOtherOrder : Scope :=
  { Scope.named "main" with
    defaults := some (.ofList [("mode", .integer 644), ("owner", .string "root")])
    children := [
      .declaration (file "/a" 1 [("owner", .string "root"), ("mode", .integer 600)] a_ne_empty),
      .scope { Scope.named "inner" with children := [
        .declaration (file "/b" 3 [("cause", .string "disk full"), ("fail", .string "partial")]
          b_ne_empty)] },
      .declaration (file "/a" 5 [("group", .string "wheel"), ("mode", .integer 644)]
        a_ne_empty)] }

/-- The dumps of the two trees are not the same, but all else is. -/
theorem lower_treeInOtherOrder :
    Memory.files.Unordered Memory.core Memory.World.store ∧
      Memory.treeInOneOrder.agrees Memory.treeInOtherOrder = true ∧
      ∃ lowered session lowered' session',
        lower Memory.files ⟨true⟩ Memory.treeInOneOrder .empty = (.ok lowered, session) ∧
          lower Memory.files ⟨true⟩ Memory.treeInOtherOrder .empty = (.ok lowered', session') ∧
          lowered.failures ≠ lowered'.failures ∧
          lowered.failures.map Failure.withoutDumpText =
            lowered'.failures.map Failure.withoutDumpText ∧
          (callsOf Memory.files ⟨true⟩ Memory.treeInOneOrder .empty).filterMap
              (Call.act? (Memory.files.face Memory.core)) =
            (callsOf Memory.files ⟨true⟩ Memory.treeInOtherOrder .empty).filterMap
              (Call.act? (Memory.files.face Memory.core)) := by
  have unordered : Memory.files.Unordered Memory.core Memory.World.store := Memory.unordered _
  have agree : Memory.treeInOneOrder.agrees Memory.treeInOtherOrder = true := by decide +kernel
  rcases lower_of_agrees unordered ⟨true⟩ agree .empty with ⟨_, failures, calls⟩
  refine ⟨unordered, agree, _, _, _, _, rfl, rfl, ?_, failures, calls⟩
  decide +kernel

end Manifest
