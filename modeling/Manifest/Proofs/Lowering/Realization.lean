import Mathlib.Data.List.Forall2
import Manifest.Proofs.Lowering.Attributes
import Manifest.Proofs.Lowering.Filling

/-!
# What a container holds after a run

`Realizes` says which children a history prescribes: a resource for each declaration that was built,
a container for each scope, and nothing else. The instance of a resource is related to the
declaration that built it and to all later ones of its identity by a relation of one's choice, which
has to be one that building establishes and merging keeps up (`Provider.Maintains`).

While a container is being filled, its children are those that the history up to this moment
prescribes. Each placement extends the history by one entry and keeps this up
(`Placement.realizes`), and so does a whole run (`Filling.realizes`).
-/

namespace Manifest

variable {σ ι : Type}

/-- A relation between a declaration, later ones of its identity and an instance that holds when the
declaration is built and goes on to hold when a later one is merged. -/
structure Provider.Maintains (provider : Provider σ ι)
    (fits : Declaration → List Declaration → ι → Prop) : Prop where
  built : ∀ {declaration : Declaration} {resourceType : ResourceType σ ι} {handle located : ι}
    {before world after : σ}, provider.lookup declaration.resourceType = some resourceType →
    resourceType.construct declaration.attributes before = (.ok handle, world) →
    provider.operations.setLocation handle declaration.location world = (located, after) →
    fits declaration [] located
  merged : ∀ (scope : String) (declaration : Declaration) (session : Session σ)
    {first : Declaration} {later : List Declaration} {existing : RealizedResource ι},
    fits first later existing.handle →
    fits first (later ++ [declaration])
      (mergeInto provider scope existing declaration session).1.handle

/-- A relation that says nothing is kept up by every provider. -/
theorem Provider.maintains_true (provider : Provider σ ι) :
    provider.Maintains fun _ _ _ => True where
  built _ _ _ := trivial
  merged _ _ _ _ _ _ _ := trivial

/-- The children that a history of a scope prescribes. -/
inductive Realizes (fits : Declaration → List Declaration → ι → Prop) :
    String → History → List (RealizedChild ι) → Prop where
  | nil {scope : String} : Realizes fits scope .nil []
  | built {scope : String} {declaration : Declaration} {rest : History} {handle : ι}
      {children : List (RealizedChild ι)}
      (once : declaration.identity ∉ rest.builtHere)
      (fit : fits declaration (rest.namesakes declaration.identity) handle)
      (tail : Realizes fits scope rest children) :
      Realizes fits scope (.entry declaration .built rest)
        (.resource ⟨declaration.identity, declaration.location, some scope, handle⟩ :: children)
  | skipped {scope : String} {declaration : Declaration} {fate : Fate} {rest : History}
      {children : List (RealizedChild ι)} (unbuilt : fate ≠ .built)
      (tail : Realizes fits scope rest children) :
      Realizes fits scope (.entry declaration fate rest) children
  | nested {scope name : String} {scopeType : Option String} {location : Location}
      {defaults : Option Attributes} {inner rest : History}
      {filled children : List (RealizedChild ι)}
      (within : Realizes fits name inner filled)
      (tail : Realizes fits scope rest children) :
      Realizes fits scope (.nested name scopeType location defaults inner rest)
        (.container ⟨name, scopeType, location, seedAttributes name scopeType defaults, filled⟩ ::
          children)

theorem RealizedChild.mem_filterMap_asResource?_iff {children : List (RealizedChild ι)}
    {resource : RealizedResource ι} :
    resource ∈ children.filterMap asResource? ↔ .resource resource ∈ children := by
  simp only [List.mem_filterMap]
  constructor
  · rintro ⟨content | content, present, isResource⟩
    · simp only [asResource?, Option.some.injEq] at isResource
      exact isResource ▸ present
    · simp [asResource?] at isResource
  · intro present
    exact ⟨.resource resource, present, rfl⟩

namespace History

theorem append_assoc (first second third : History) :
    (first.append second).append third = first.append (second.append third) := by
  induction first with
  | nil => rfl
  | entry declaration fate rest ih => simp only [append, ih]
  | nested name scopeType location defaults inner rest _ ih => simp only [append, ih]

theorem append_nil (history : History) : history.append .nil = history := by
  induction history with
  | nil => rfl
  | entry declaration fate rest ih => simp only [append, ih]
  | nested name scopeType location defaults inner rest _ ih => simp only [append, ih]

theorem builtHere_append (first second : History) :
    (first.append second).builtHere = first.builtHere ++ second.builtHere := by
  induction first with
  | nil => rfl
  | entry declaration fate rest ih => cases fate <;> simp [append, builtHere, ih]
  | nested name scopeType location defaults inner rest _ ih => exact ih

theorem namesakes_append (identity : Identity) (first second : History) :
    (first.append second).namesakes identity =
      first.namesakes identity ++ second.namesakes identity := by
  induction first with
  | nil => rfl
  | entry declaration fate rest ih =>
      simp only [append, namesakes, ih]
      split <;> rfl
  | nested name scopeType location defaults inner rest _ ih => exact ih

theorem builtHere_entry_of_ne {declaration : Declaration} {fate : Fate} (unbuilt : fate ≠ .built)
    (rest : History) : (History.entry declaration fate rest).builtHere = rest.builtHere := by
  cases fate with
  | built => contradiction
  | failed => rfl
  | merged => rfl

end History

namespace Realizes

variable {fits : Declaration → List Declaration → ι → Prop} {scope : String} {past : History}
  {children : List (RealizedChild ι)} {declaration : Declaration}

/-- The direct resources are the declarations that were built, in order. -/
theorem identities (realizes : Realizes fits scope past children) :
    (children.filterMap RealizedChild.asResource?).map RealizedResource.identity =
      past.builtHere := by
  induction realizes with
  | nil => rfl
  | built once fit tail ih => simp [RealizedChild.asResource?, History.builtHere, ih]
  | skipped unbuilt tail ih => rw [ih, History.builtHere_entry_of_ne unbuilt]
  | nested within tail _ ih =>
      rw [List.filterMap_cons_none rfl]
      exact ih

theorem identity_mem_builtHere (realizes : Realizes fits scope past children)
    {resource : RealizedResource ι} (present : .resource resource ∈ children) :
    resource.identity ∈ past.builtHere := by
  rw [← realizes.identities]
  exact List.mem_map_of_mem (RealizedChild.mem_filterMap_asResource?_iff.2 present)

theorem nodup_builtHere (realizes : Realizes fits scope past children) : past.builtHere.Nodup := by
  induction realizes with
  | nil => exact List.nodup_nil
  | built once fit tail ih => exact List.nodup_cons.2 ⟨once, ih⟩
  | skipped unbuilt tail ih => rwa [History.builtHere_entry_of_ne unbuilt]
  | nested within tail _ ih => exact ih

/-- A direct resource comes from the first declaration of its identity that was built. -/
theorem exists_firstBuilt? (realizes : Realizes fits scope past children)
    {resource : RealizedResource ι} (present : .resource resource ∈ children) :
    ∃ first later, past.firstBuilt? resource.identity = some (first, later) ∧
      first.identity = resource.identity ∧ resource.location = first.location ∧
      resource.parent = some scope ∧ fits first later resource.handle := by
  induction realizes with
  | nil => simp at present
  | @built _ declaration rest handle _ once fit tail ih =>
      rcases List.mem_cons.1 present with here | further
      · rw [RealizedChild.resource.injEq] at here
        subst here
        exact ⟨declaration, rest.namesakes declaration.identity, if_pos ⟨rfl, rfl⟩, rfl, rfl, rfl,
          fit⟩
      · have other : declaration.identity ≠ resource.identity := by
          intro same
          exact once (same ▸ tail.identity_mem_builtHere further)
        rw [History.firstBuilt?, if_neg fun both => other both.1]
        exact ih further
  | skipped unbuilt tail ih =>
      rw [History.firstBuilt?, if_neg fun both => unbuilt both.2]
      exact ih present
  | nested within tail _ ih =>
      rcases List.mem_cons.1 present with here | further
      · contradiction
      · exact ih further

/-- An entry that builds nothing, of an identity that was not built, changes nothing. -/
theorem append_skipped (realizes : Realizes fits scope past children) {fate : Fate}
    (unbuilt : fate ≠ .built) (absent : declaration.identity ∉ past.builtHere) :
    Realizes fits scope (past.append (.entry declaration fate .nil)) children := by
  induction realizes with
  | nil => exact .skipped unbuilt .nil
  | @built _ first rest _ _ once fit tail ih =>
      simp only [History.builtHere, List.mem_cons, not_or] at absent
      rcases absent with ⟨other, absent⟩
      refine .built ?_ ?_ (ih absent)
      · rwa [History.builtHere_append, History.builtHere_entry_of_ne unbuilt, History.builtHere,
          List.append_nil]
      · rw [History.namesakes_append, History.namesakes, if_neg other, History.namesakes,
          List.append_nil]
        exact fit
  | skipped unbuiltFirst tail ih =>
      rw [History.builtHere_entry_of_ne unbuiltFirst] at absent
      exact .skipped unbuiltFirst (ih absent)
  | nested within tail _ ih => exact .nested within (ih absent)

theorem append_built (realizes : Realizes fits scope past children) {handle : ι}
    (absent : declaration.identity ∉ past.builtHere) (fit : fits declaration [] handle) :
    Realizes fits scope (past.append (.entry declaration .built .nil))
      (children ++
        [.resource ⟨declaration.identity, declaration.location, some scope, handle⟩]) := by
  induction realizes with
  | nil => exact .built List.not_mem_nil fit .nil
  | @built _ first rest _ _ once fitFirst tail ih =>
      simp only [History.builtHere, List.mem_cons, not_or] at absent
      rcases absent with ⟨other, absent⟩
      refine .built ?_ ?_ (ih absent)
      · simp [History.builtHere_append, History.builtHere, once, Ne.symm other]
      · rw [History.namesakes_append, History.namesakes, if_neg other, History.namesakes,
          List.append_nil]
        exact fitFirst
  | skipped unbuilt tail ih =>
      rw [History.builtHere_entry_of_ne unbuilt] at absent
      exact .skipped unbuilt (ih absent)
  | nested within tail _ ih => exact .nested within (ih absent)

theorem append_nested (realizes : Realizes fits scope past children) {name : String}
    {scopeType : Option String} {location : Location} {defaults : Option Attributes}
    {inner : History} {filled : List (RealizedChild ι)} (within : Realizes fits name inner filled) :
    Realizes fits scope (past.append (.nested name scopeType location defaults inner .nil))
      (children ++ [.container
        ⟨name, scopeType, location, seedAttributes name scopeType defaults, filled⟩]) := by
  induction realizes with
  | nil => exact .nested within .nil
  | built once fit tail ih =>
      refine .built ?_ ?_ ih
      · simpa [History.builtHere_append, History.builtHere] using once
      · simpa [History.namesakes_append, History.namesakes] using fit
  | skipped unbuilt tail ih => exact .skipped unbuilt ih
  | nested withinFirst tail _ ih => exact .nested withinFirst ih

/-- An entry of an identity that was built changes the instance of its resource. -/
theorem append_merged (realizes : Realizes fits scope past children) {position : Nat}
    {existing : RealizedResource ι} {handle : ι}
    (there : children[position]? = some (.resource existing))
    (same : existing.identity = declaration.identity)
    (keptUp : ∀ first later, fits first later existing.handle →
      fits first (later ++ [declaration]) handle) :
    Realizes fits scope (past.append (.entry declaration .merged .nil))
      (children.set position (.resource { existing with parent := some scope, handle })) := by
  -- the entry comes last in the history, and what it changes may stand anywhere in the children
  induction realizes generalizing position with
  | nil => simp at there
  | @built scope first rest _ children once fit tail ih =>
      have onceMore : first.identity ∉
          (rest.append (.entry declaration .merged .nil)).builtHere := by
        simpa [History.builtHere_append, History.builtHere] using once
      cases position with
      | zero =>
          -- the resource that is merged into comes from this entry
          simp only [List.getElem?_cons_zero, Option.some.injEq,
            RealizedChild.resource.injEq] at there
          subst there
          replace same : declaration.identity = first.identity := same.symm
          refine .built onceMore ?_ (tail.append_skipped (by decide) (same ▸ once))
          rw [History.namesakes_append, History.namesakes, if_pos same, History.namesakes]
          exact keptUp first _ fit
      | succ position =>
          rw [List.getElem?_cons_succ] at there
          have member := tail.identity_mem_builtHere (List.mem_of_getElem? there)
          have other : declaration.identity ≠ first.identity := by
            intro equal
            rw [same, equal] at member
            exact once member
          refine .built onceMore ?_ (ih there)
          rw [History.namesakes_append, History.namesakes, if_neg other, History.namesakes,
            List.append_nil]
          exact fit
  | skipped unbuilt tail ih => exact .skipped unbuilt (ih there)
  | nested within tail _ ih =>
      cases position with
      | zero => simp at there
      | succ position =>
          rw [List.getElem?_cons_succ] at there
          exact .nested within (ih there)

end Realizes

variable {provider : Provider σ ι} {options : Options} {scope : String}
  {contents : Contents ι} {session : Session σ}
  {fits : Declaration → List Declaration → ι → Prop}

/-- What lowering one declaration does to the children of a container is what one more entry of the
history prescribes. -/
theorem Placement.realizes {declaration : Declaration} {fate : Fate} {next : Contents ι}
    {after : Session σ}
    (placement : Placement provider options scope declaration contents session fate next after)
    (maintains : provider.Maintains fits) (indexed : contents.Indexed) {past : History}
    (realizes : Realizes fits scope past contents.children) :
    Realizes fits scope (past.append (.entry declaration fate .nil)) next.children := by
  have unbuilt (fresh : contents.positions.get? declaration.identity = none) :
      declaration.identity ∉ past.builtHere := by
    intro builtBefore
    rw [← realizes.identities] at builtBefore
    rcases List.mem_map.1 builtBefore with ⟨resource, present, same⟩
    exact indexed.identity_ne fresh (RealizedChild.mem_filterMap_asResource?_iff.1 present) same
  cases placement with
  | built fresh known constructed moved =>
      exact realizes.append_built (unbuilt fresh) (maintains.built known constructed moved)
  | failed fresh _ _ => exact realizes.append_skipped (by decide) (unbuilt fresh)
  | merged kept there =>
      rcases (indexed _ _).1 kept with ⟨resource, standing, same⟩
      rw [there, Option.some.injEq, RealizedChild.resource.injEq] at standing
      subst standing
      exact realizes.append_merged there same fun _ _ fit =>
        maintains.merged scope declaration session fit

/-- What lowering children of a scope adds to a container is what their history prescribes. -/
theorem Filling.realizes {history : History} {final : Contents ι} {last : Session σ}
    (filling : Filling provider options scope history contents session final last)
    (maintains : provider.Maintains fits) (indexed : contents.Indexed) {past : History}
    (realizes : Realizes fits scope past contents.children) :
    Realizes fits scope (past.append history) final.children := by
  induction filling generalizing past with
  | nil => rwa [History.append_nil]
  | @entry _ declaration fate rest _ _ _ _ _ _ placement tail ih =>
      have extended := ih (placement.indexed indexed)
        (placement.realizes maintains indexed realizes)
      rwa [History.append_assoc] at extended
  | @nested _ name scopeType location defaults inner rest _ _ _ _ _ _ within tail ihWithin
      ihTail =>
      rw [openContainer_fst] at ihTail
      have inside := ihWithin Contents.indexed_empty .nil
      have extended := ihTail (indexed.addContainer _) (realizes.append_nested inside)
      rwa [History.append_assoc] at extended

mutual

/-- A container and all containers inside, depth first and in order. -/
def Realized.containers : Realized ι → List (Realized ι)
  | ⟨name, scopeType, location, attributes, children⟩ =>
      ⟨name, scopeType, location, attributes, children⟩ :: containersIn children

/-- All containers among some children and inside them, depth first and in order. -/
def Realized.containersIn : List (RealizedChild ι) → List (Realized ι)
  | [] => []
  | .resource _ :: rest => containersIn rest
  | .container container :: rest => container.containers ++ containersIn rest

end

namespace Realized

theorem mem_resourcesIn_iff {children : List (RealizedChild ι)} {resource : RealizedResource ι} :
    resource ∈ resourcesIn children ↔ .resource resource ∈ children ∨
      ∃ holder ∈ containersIn children, .resource resource ∈ holder.children := by
  induction children using children_induction with
  | nil => simp [resourcesIn, containersIn]
  | resource first rest ih => simp [resourcesIn, containersIn, ih, or_assoc]
  | container first rest ihInner ihRest =>
      rcases first with ⟨name, scopeType, location, attributes, inner⟩
      simp [resourcesIn, resources, containersIn, containers, ihInner, ihRest, or_and_right,
        exists_or, or_assoc, or_left_comm]

/-- The resources of a tree are the direct ones of its containers. -/
theorem mem_resources_iff {root : Realized ι} {resource : RealizedResource ι} :
    resource ∈ root.resources ↔
      ∃ holder ∈ root.containers, .resource resource ∈ holder.children := by
  rcases root with ⟨name, scopeType, location, attributes, children⟩
  simp [resources, containers, mem_resourcesIn_iff]

end Realized

/-- A container of a scope, which is given with its name and its history, holds what the history
prescribes. -/
def FilledBy (fits : Declaration → List Declaration → ι → Prop) (site : String × History)
    (container : Realized ι) : Prop :=
  container.name = site.1 ∧ Realizes fits site.1 site.2 container.children

/-- Scopes and containers under some children correspond, each in its place. -/
theorem Realizes.forall₂_containersIn {history : History} {children : List (RealizedChild ι)}
    (realizes : Realizes fits scope history children) :
    List.Forall₂ (FilledBy fits) history.scopes (Realized.containersIn children) := by
  induction realizes with
  | nil => exact .nil
  | built once fit tail ih => exact ih
  | skipped unbuilt tail ih => exact ih
  | nested within tail ihWithin ihTail =>
      exact .cons ⟨rfl, within⟩ (List.rel_append ihWithin ihTail)

/-- Every resource is a direct one of a container, which belongs to some scope. -/
theorem FilledBy.exists_site {sites : List (String × History)} {root : Realized ι}
    (filled : List.Forall₂ (FilledBy fits) sites root.containers)
    {resource : RealizedResource ι} (present : resource ∈ root.resources) :
    ∃ site ∈ sites, ∃ holder, FilledBy fits site holder ∧
      .resource resource ∈ holder.children := by
  rcases Realized.mem_resources_iff.1 present with ⟨holder, member, direct⟩
  rcases List.mem_iff_getElem.1 member with ⟨position, bound, rfl⟩
  have inside : position < sites.length := filled.length_eq ▸ bound
  exact ⟨sites[position], List.getElem_mem inside, _, filled.get inside bound, direct⟩

/-- Each scope of a tree has a container in its place, which holds what the history of the scope
prescribes. -/
theorem forall₂_containers_of_lower {tree : Scope} {world : σ} {lowered : Lowered ι}
    {last : Session σ} (maintains : provider.Maintains fits)
    (run : lower provider options tree world = (.ok lowered, last)) :
    (tree.history provider options world).children = tree.children ∧
      ∃ name, tree.name = some name ∧
        List.Forall₂ (FilledBy fits)
          ((name, tree.history provider options world) ::
            (tree.history provider options world).scopes)
          lowered.root.containers := by
  rcases filling_of_lower run with ⟨sameChildren, name, contents, _, named, filling, rfl, _⟩
  have realizes := filling.realizes maintains Contents.indexed_empty .nil
  exact ⟨sameChildren, name, named, .cons ⟨rfl, realizes⟩ realizes.forall₂_containersIn⟩

end Manifest
