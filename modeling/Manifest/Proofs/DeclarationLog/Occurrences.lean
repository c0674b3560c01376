import Mathlib.Data.List.Basic
import Mathlib.Data.List.Induction
import Manifest.Proofs.DeclarationLog
import Manifest.Proofs.Lowering.History

/-!
# Where references dangle

A reference stands at a path of a tree: the path goes down through the children of scopes to a
declaration, on to one of its attributes, and down through the items of lists to the reference
(`Scope.referenceAt?`). Paths are ordered lexicographically, so that they follow declarations depth
first, attributes as they were inserted, and items from left to right.

The dangling references of a tree are those at all paths where there is a reference to an identity
that was not registered, each path counted once and in order (`Enumerates`). The three recursions,
through lists, attributes and scopes, all go through the items of a list one after the other; so
they share one lemma, `Enumerates.atItem`.
-/

namespace Manifest

universe u v

/-! ### Paths -/

/-- The contents are what stands at the paths at which something stands, in order. -/
def Enumerates {α : Type u} (at? : List Nat → Option α) (contents : List α) : Prop :=
  ∃ paths : List (List Nat), paths.Pairwise (· < ·) ∧
    (∀ path, path ∈ paths ↔ (at? path).isSome) ∧ paths.map at? = contents.map some

/-- What stands at a path that leads to one of several items first. -/
def atItem {α : Type u} {β : Type v} (inside : β → List Nat → Option α) (items : List β) :
    List Nat → Option α
  | [] => none
  | index :: path => items[index]?.bind fun item => inside item path

theorem lt_length_of_atItem {α : Type u} {β : Type v} {inside : β → List Nat → Option α}
    {items : List β} {index : Nat} {path : List Nat}
    (found : (atItem inside items (index :: path)).isSome) : index < items.length := by
  rcases Nat.lt_or_ge index items.length with within | outside
  · exact within
  · simp [atItem, List.getElem?_eq_none outside] at found

theorem atItem_append_singleton {α : Type u} {β : Type v} (inside : β → List Nat → Option α)
    (earlier : List β) (last : β) (index : Nat) (path : List Nat) :
    atItem inside (earlier ++ [last]) (index :: path) =
      if index < earlier.length then atItem inside earlier (index :: path)
      else if index = earlier.length then inside last path else none := by
  rcases Nat.lt_trichotomy index earlier.length with less | same | more
  · simp [atItem, List.getElem?_append_left, less]
  · simp [atItem, same]
  · have outside : (earlier ++ [last])[index]? = none := by
      apply List.getElem?_eq_none
      rw [List.length_append, List.length_singleton]
      omega
    have notLess : ¬ index < earlier.length := by omega
    have other : index ≠ earlier.length := by omega
    simp [atItem, outside, notLess, other]

namespace Enumerates

variable {α : Type u} {β : Type v} {at? : List Nat → Option α} {contents : List α}
  {inside : β → List Nat → Option α}

theorem nothing (bare : ∀ path, at? path = none) : Enumerates at? [] :=
  ⟨[], .nil, by simp [bare], rfl⟩

theorem here {content : α} (root : at? [] = some content)
    (leaf : ∀ index path, at? (index :: path) = none) : Enumerates at? [content] := by
  refine ⟨[[]], List.pairwise_singleton _ _, ?_, by simp [root]⟩
  intro path
  cases path with
  | nil => simp [root]
  | cons index path => simp [leaf]

theorem filter (keep : α → Bool) (enumerates : Enumerates at? contents) :
    Enumerates (fun path => (at? path).filter keep) (contents.filter keep) := by
  rcases enumerates with ⟨paths, sorted, present, found⟩
  refine ⟨paths.filter fun path => ((at? path).filter keep).isSome, sorted.filter _, ?_, ?_⟩
  · intro path
    rw [List.mem_filter, present]
    cases standing : at? path with
    | none => simp [standing]
    | some content => simp [standing]
  · have chosen : ∀ content ∈ contents.filter keep, (some content).filter keep = some content := by
      intro content member
      simp [(List.mem_filter.1 member).2]
    calc (paths.filter fun path => ((at? path).filter keep).isSome).map
          (fun path => (at? path).filter keep)
        = ((paths.map at?).map (Option.filter keep)).filter Option.isSome := by
          rw [List.map_map, List.filter_map]
          rfl
      _ = ((contents.map some).map (Option.filter keep)).filter Option.isSome := by rw [found]
      _ = (contents.filter keep).map fun content => (some content).filter keep := by
          rw [List.map_map, List.filter_map]
          congr 2
          funext content
          simp
      _ = (contents.filter keep).map some := List.map_congr_left chosen

theorem map {γ : Type v} (change : α → γ) (enumerates : Enumerates at? contents) :
    Enumerates (fun path => (at? path).map change) (contents.map change) := by
  rcases enumerates with ⟨paths, sorted, present, found⟩
  refine ⟨paths, sorted, ?_, ?_⟩
  · intro path
    rw [present, Option.isSome_map]
  · calc paths.map (fun path => (at? path).map change)
        = (paths.map at?).map (Option.map change) := by simp
      _ = (contents.map some).map (Option.map change) := by rw [found]
      _ = (contents.map change).map some := by simp

/-- One more item comes after all others, with a greater index. -/
theorem append_singleton {earlier : List β} {last : β} {further : List α}
    (first : Enumerates (Manifest.atItem inside earlier) contents)
    (second : Enumerates (inside last) further) :
    Enumerates (Manifest.atItem inside (earlier ++ [last])) (contents ++ further) := by
  rcases first with ⟨paths, sorted, present, found⟩
  rcases second with ⟨inner, sortedInner, presentInner, foundInner⟩
  refine ⟨paths ++ inner.map (earlier.length :: ·), ?_, ?_, ?_⟩
  · rw [List.pairwise_append, List.pairwise_map]
    refine ⟨sorted, ?_, ?_⟩
    · apply sortedInner.imp
      intro path other before
      exact List.cons_lt_cons_iff.2 (.inr ⟨rfl, before⟩)
    · intro path member other memberOther
      rcases List.mem_map.1 memberOther with ⟨rest, _, rfl⟩
      have standing := (present path).1 member
      cases path with
      | nil => simp [Manifest.atItem] at standing
      | cons index path =>
          exact List.cons_lt_cons_iff.2 (.inl (lt_length_of_atItem standing))
  · intro path
    rw [List.mem_append, present]
    cases path with
    | nil => simp [Manifest.atItem]
    | cons index path =>
        rw [atItem_append_singleton]
        rcases Nat.lt_trichotomy index earlier.length with less | same | more
        · have other : earlier.length ≠ index := by omega
          simp [less, other]
        · subst same
          simp [Manifest.atItem, presentInner]
        · have notLess : ¬ index < earlier.length := by omega
          have other : index ≠ earlier.length := by omega
          simp [Manifest.atItem, notLess, other, Ne.symm other]
  · have same : ∀ path ∈ paths, Manifest.atItem inside (earlier ++ [last]) path =
        Manifest.atItem inside earlier path := by
      intro path member
      have standing := (present path).1 member
      cases path with
      | nil => rfl
      | cons index path => rw [atItem_append_singleton, if_pos (lt_length_of_atItem standing)]
    rw [List.map_append, List.map_append, List.map_congr_left same, found]
    simp [atItem_append_singleton, Function.comp_def, foundInner]

/-- If what stands in each of several items is enumerated, what stands in all of them is enumerated
by going from one item to the next. -/
theorem atItem {within : β → List α} {items : List β}
    (each : ∀ item ∈ items, Enumerates (inside item) (within item)) :
    Enumerates (Manifest.atItem inside items) (items.flatMap within) := by
  induction items using List.reverseRecOn with
  | nil =>
      apply nothing
      intro path
      cases path <;> rfl
  | append_singleton earlier last ih =>
      rw [List.flatMap_append, List.flatMap_singleton]
      apply append_singleton
      · apply ih
        intro item member
        exact each item (List.mem_append_left _ member)
      · exact each last (by simp)

end Enumerates

/-! ### References -/

/-- The target of the reference at a path of a value. -/
def Value.referenceAt? : Value → List Nat → Option Identity
  | .reference target, [] => some target
  | .list items, index :: path => items[index]?.bind fun item => item.referenceAt? path
  | _, _ => none

/-- What there is to tell about the reference at a path of a declaration. -/
def Declaration.referenceAt? (declaration : Declaration) : List Nat → Option DanglingReference :=
  atItem (fun entry path => (entry.2.referenceAt? path).map fun target =>
    ⟨declaration.identity, entry.1, target, declaration.location⟩) declaration.attributes.entries

def Child.referenceAt? : Child → List Nat → Option DanglingReference
  | .declaration content, path => content.referenceAt? path
  | .scope _, [] => none
  | .scope content, index :: path =>
      content.children[index]?.bind fun child => child.referenceAt? path

/-- What there is to tell about the reference at a path of a tree. -/
def Scope.referenceAt? (scope : Scope) : List Nat → Option DanglingReference :=
  (Child.scope scope).referenceAt?

/-- What there is to tell about the references of a declaration. -/
def Declaration.references (declaration : Declaration) : List DanglingReference :=
  declaration.attributes.entries.flatMap fun entry => entry.2.references.map fun target =>
    ⟨declaration.identity, entry.1, target, declaration.location⟩

/-- What there is to tell about the references of all declarations of a tree. -/
def Scope.references (scope : Scope) : List DanglingReference :=
  scope.declarations.flatMap Declaration.references

def Child.references : Child → List DanglingReference
  | .declaration content => content.references
  | .scope content => content.references

theorem Value.referenceAt?_list (items : List Value) :
    (Value.list items).referenceAt? = atItem referenceAt? items := by
  funext path
  cases path <;> rfl

theorem Child.referenceAt?_declaration (content : Declaration) :
    (Child.declaration content).referenceAt? = content.referenceAt? := by
  funext path
  cases path <;> rfl

theorem Child.referenceAt?_scope (content : Scope) :
    (Child.scope content).referenceAt? = atItem referenceAt? content.children := by
  funext path
  cases path <;> rfl

theorem Value.referencesAll_eq (values : List Value) :
    referencesAll values = values.flatMap references := by
  induction values with
  | nil => rfl
  | cons value rest ih => rw [referencesAll, List.flatMap_cons, ih]

theorem Scope.flatMap_declarationsIn (children : List Child) :
    (declarationsIn children).flatMap Declaration.references =
      children.flatMap Child.references := by
  induction children with
  | nil => rfl
  | cons child rest ih =>
      cases child with
      | declaration content =>
          rw [declarationsIn, List.flatMap_cons, List.flatMap_cons, ih]
          rfl
      | scope content =>
          rw [declarationsIn, List.flatMap_append, List.flatMap_cons, ih]
          rfl

mutual

theorem Value.enumerates_references (value : Value) :
    Enumerates value.referenceAt? value.references := by
  cases value with
  | reference target =>
      apply Enumerates.here
      · rfl
      · intro index path
        rfl
  | list items =>
      have inside := Enumerates.atItem (Value.enumerates_references_of_mem items)
      rw [← Value.referencesAll_eq, ← Value.referenceAt?_list] at inside
      exact inside
  | string _ => exact .nothing fun path => by cases path <;> rfl
  | integer _ => exact .nothing fun path => by cases path <;> rfl
  | boolean _ => exact .nothing fun path => by cases path <;> rfl

theorem Value.enumerates_references_of_mem (values : List Value) :
    ∀ value ∈ values, Enumerates value.referenceAt? value.references := by
  cases values with
  | nil => simp
  | cons first rest =>
      intro value member
      rcases List.mem_cons.1 member with same | further
      · rw [same]
        exact Value.enumerates_references first
      · exact Value.enumerates_references_of_mem rest value further

end

theorem Declaration.enumerates_references (declaration : Declaration) :
    Enumerates declaration.referenceAt? declaration.references := by
  apply Enumerates.atItem
  intro entry _
  exact entry.2.enumerates_references.map _

theorem Scope.enumerates_references_of_children {scope : Scope}
    (inside : ∀ child ∈ scope.children, Enumerates child.referenceAt? child.references) :
    Enumerates scope.referenceAt? scope.references := by
  rcases scope with ⟨name, scopeType, location, defaults, children⟩
  have items := Enumerates.atItem inside
  rw [referenceAt?, Child.referenceAt?_scope, references, declarations, flatMap_declarationsIn]
  exact items

theorem Scope.enumerates_references_of_mem (children : List Child) :
    ∀ child ∈ children, Enumerates child.referenceAt? child.references := by
  induction children using Scope.children_induction with
  | nil => simp
  | declaration declaration rest ih =>
      intro child member
      rcases List.mem_cons.1 member with rfl | further
      · rw [Child.referenceAt?_declaration]
        exact declaration.enumerates_references
      · exact ih child further
  | scope scope rest ihInner ihRest =>
      intro child member
      rcases List.mem_cons.1 member with rfl | further
      · exact enumerates_references_of_children ihInner
      · exact ihRest child further

/-- The references of a tree are listed depth first, by attributes, and from left to right. -/
theorem Scope.enumerates_references (scope : Scope) :
    Enumerates scope.referenceAt? scope.references :=
  enumerates_references_of_children (enumerates_references_of_mem scope.children)

/-! ### Dangling references -/

/-- Whether a reference leads to none of some declarations. -/
def DanglingReference.misses (reference : DanglingReference) (declarations : List Declaration) :
    Bool :=
  declarations.all fun declaration => declaration.identity ≠ reference.target

theorem DanglingReference.misses_append (reference : DanglingReference)
    (first second : List Declaration) :
    reference.misses (first ++ second) = (reference.misses first && reference.misses second) :=
  List.all_append

theorem DanglingReference.misses_congr {first second : List Declaration}
    (same : ∀ declaration, declaration ∈ first ↔ declaration ∈ second)
    (reference : DanglingReference) : reference.misses first = reference.misses second := by
  rw [Bool.eq_iff_iff]
  simp only [misses, List.all_eq_true, same]

namespace DeclarationLog

variable {log : DeclarationLog}

theorem danglingOf_eq_filter (log : DeclarationLog) (declaration : Declaration) :
    log.danglingOf declaration =
      declaration.references.filter fun reference => !log.contains reference.target := by
  rw [danglingOf, Declaration.references, List.filter_flatMap]
  apply List.flatMap_congr
  intro entry _
  rw [danglingIn_eq, List.filter_map]
  rfl

theorem danglingReferences_eq_filter (log : DeclarationLog) (scope : Scope) :
    log.danglingReferences scope =
      scope.references.filter fun reference => !log.contains reference.target := by
  rw [danglingReferences_eq, Scope.references, List.filter_flatMap]
  apply List.flatMap_congr
  intro declaration _
  exact log.danglingOf_eq_filter declaration

/-- In a log that a session can come to, what is not contained was not registered. -/
theorem Reachable.danglingReferences_eq (reachable : log.Reachable) (scope : Scope) :
    log.danglingReferences scope =
      scope.references.filter fun reference => reference.misses log.declarations := by
  rw [danglingReferences_eq_filter]
  apply List.filter_congr
  intro reference _
  have known := reachable.consistent.contains_iff reference.target
  rw [Bool.eq_iff_iff, Bool.not_eq_true', ← Bool.not_eq_true, known]
  simp [DanglingReference.misses]

theorem Reachable.danglingReferences_registerAll (reachable : log.Reachable)
    (further : List Declaration) (scope : Scope) :
    (log.registerAll further).danglingReferences scope =
      (log.danglingReferences scope).filter fun reference => reference.misses further := by
  rw [(reachable.registerAll further).danglingReferences_eq, reachable.danglingReferences_eq,
    List.filter_filter]
  apply List.filter_congr
  intro reference _
  rw [declarations_registerAll, DanglingReference.misses_append, Bool.and_comm]

/-- The dangling references of a tree are those at all paths where there is a reference to an
identity that was not registered. To register more declarations removes those that lead to one of
them and leaves the others as they are. When all declarations of the tree are registered, in
whatever order, there remain those that lead neither into the tree nor to what was registered
before. -/
theorem enumerates_danglingReferences (reachable : log.Reachable) (scope : Scope) :
    Enumerates
        (fun path => (scope.referenceAt? path).filter fun reference =>
          reference.misses log.declarations)
        (log.danglingReferences scope) ∧
      (∀ further, (log.registerAll further).danglingReferences scope =
        (log.danglingReferences scope).filter fun reference => reference.misses further) ∧
      ∀ further, (∀ declaration, declaration ∈ further ↔ declaration ∈ scope.declarations) →
        Enumerates
          (fun path => (scope.referenceAt? path).filter fun reference =>
            reference.misses (log.declarations ++ scope.declarations))
          ((log.registerAll further).danglingReferences scope) := by
  refine ⟨?_, ?_, ?_⟩
  · rw [reachable.danglingReferences_eq]
    exact scope.enumerates_references.filter _
  · intro further
    exact reachable.danglingReferences_registerAll further scope
  · intro further same
    rw [(reachable.registerAll further).danglingReferences_eq, declarations_registerAll]
    have alike : ∀ declaration, declaration ∈ log.declarations ++ further ↔
        declaration ∈ log.declarations ++ scope.declarations := by
      intro declaration
      rw [List.mem_append, List.mem_append, same]
    simp only [DanglingReference.misses_congr alike]
    exact scope.enumerates_references.filter _

end DeclarationLog

/-- A file with references at several depths, two of them to the same file, and a file in an inner
scope that refers to both. -/
def Memory.treeOfReferences : Scope :=
  { Scope.named "main" with children := [
    .declaration (file "/a" 1
      [("require", .list [.reference ⟨"file", "/c"⟩,
          .list [.reference ⟨"file", "/x"⟩, .boolean true], .reference ⟨"file", "/x"⟩]),
        ("before", .reference ⟨"file", "/b"⟩)] a_ne_empty),
    .scope { Scope.named "inner" with children := [
      .declaration (file "/b" 3
        [("notify", .list [.reference ⟨"file", "/x"⟩, .reference ⟨"file", "/a"⟩])]
        b_ne_empty)] }] }

/-- If nothing but one file was registered, all references to others dangle. Once the tree is
registered too, the references to the file that is nowhere declared remain. -/
theorem DeclarationLog.enumerates_danglingReferences_treeOfReferences :
    ∃ log : DeclarationLog, log.Reachable ∧
      log.declarations = [Memory.file "/c" 7 [] Memory.c_ne_empty] ∧
      (log.danglingReferences Memory.treeOfReferences).map (fun reference =>
          (reference.source.name, reference.key, reference.target.name)) =
        [("/a", "require", "/x"), ("/a", "require", "/x"), ("/a", "before", "/b"),
          ("/b", "notify", "/x"), ("/b", "notify", "/a")] ∧
      Enumerates
        (fun path => (Memory.treeOfReferences.referenceAt? path).filter fun reference =>
          reference.misses log.declarations)
        (log.danglingReferences Memory.treeOfReferences) ∧
      ((log.registerScope Memory.treeOfReferences).danglingReferences
          Memory.treeOfReferences).map (fun reference =>
          (reference.source.name, reference.key, reference.target.name)) =
        [("/a", "require", "/x"), ("/a", "require", "/x"), ("/b", "notify", "/x")] ∧
      Enumerates
        (fun path => (Memory.treeOfReferences.referenceAt? path).filter fun reference =>
          reference.misses (log.declarations ++ Memory.treeOfReferences.declarations))
        ((log.registerScope Memory.treeOfReferences).danglingReferences
          Memory.treeOfReferences) := by
  have reachable := DeclarationLog.Reachable.empty.register
    (Memory.file "/c" 7 [] Memory.c_ne_empty)
  have exactly := DeclarationLog.enumerates_danglingReferences reachable Memory.treeOfReferences
  exact ⟨_, reachable, rfl, by decide +kernel, exactly.1, by decide +kernel,
    exactly.2.2 Memory.treeOfReferences.declarations fun _ => Iff.rfl⟩

end Manifest
