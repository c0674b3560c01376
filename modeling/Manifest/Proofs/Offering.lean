import Manifest.Node

/-!
# Nodes offered together and one by one

Nodes that are offered together are checked before any of them becomes a child
(`Scope.pushBatch`), while nodes that are offered one by one become children up to the first that is
refused (`Scope.pushEach`). Either way the same nodes are accepted, with the same children to show
for it, or there is the same refusal (`Scope.TakesTogether`). It follows what children a scope has
after any changes: the nodes of those that were not refused, in order.
-/

namespace Manifest

/-- The node that is offered to make something a child. -/
def Child.node : Child → Node
  | .declaration content => .declaration content
  | .scope content => .scope content

namespace Node

@[simp]
theorem toChild_node (child : Child) : child.node.toChild = .ok child := by
  cases child <;> rfl

/-- Nodes are children up to their end or up to a first value. -/
theorem exists_children_append (nodes : List Node) :
    ∃ (batch : List Child) (rest : List Node), nodes = batch.map Child.node ++ rest ∧
      (rest = [] ∨ ∃ content after, rest = value content :: after) := by
  induction nodes with
  | nil => exact ⟨[], [], rfl, .inl rfl⟩
  | cons node nodes ih =>
      rcases ih with ⟨batch, rest, rfl, ending⟩
      cases node with
      | declaration content => exact ⟨.declaration content :: batch, rest, rfl, ending⟩
      | scope content => exact ⟨.scope content :: batch, rest, rfl, ending⟩
      | value content => exact ⟨[], _, rfl, .inr ⟨content, _, rfl⟩⟩

end Node

namespace Scope

/-- A scope with more children behind its own. -/
def extend (scope : Scope) (batch : List Child) : Scope :=
  { scope with children := scope.children ++ batch }

theorem extend_nil (scope : Scope) : scope.extend [] = scope := by
  cases scope
  rw [extend, List.append_nil]

theorem extend_extend (scope : Scope) (first second : List Child) :
    (scope.extend first).extend second = scope.extend (first ++ second) := by
  simp only [extend, List.append_assoc]

/-- Something that may be done to a scope in its place. -/
inductive Change where
  | push (node : Node)
  | pushAll (nodes : List Node)
  | param (key : String) (value : Value)
  | setName (name : Option String)
  | setType (scopeType : Option String)
  | setLocation (location : Location)
  | setDefaults (defaults : Option Attributes)

/-- The nodes that a change offers. -/
def Change.nodes : Change → List Node
  | .push node => [node]
  | .pushAll nodes => nodes
  | _ => []

/-- The nodes that a scope takes on account of a change. -/
def Change.accepted (change : Change) : Except StructureError Unit → List Node
  | .ok () => change.nodes
  | .error _ => []

/-- Checks nodes one after the other, holding back those that were found to be children until all
have been checked. -/
def pushBatch (scope : Scope) : List Node → List Child → Except StructureError Unit × Scope
  | [], batch => (.ok (), scope.extend batch)
  | node :: rest, batch =>
      match node.toChild with
      | .ok child => scope.pushBatch rest (batch ++ [child])
      | .error kind => (.error (.foreignChild kind scope.name), scope)

/-- Offers nodes one after the other, up to the first that is refused. The ones before it stay. -/
def pushEach (scope : Scope) : List Node → Except StructureError Unit × Scope
  | [] => (.ok (), scope)
  | node :: rest =>
      match scope.push node with
      | .ok pushed => pushed.pushEach rest
      | .error refusal => (.error refusal, scope)

/-- Whether a change was refused, and what the scope is afterwards. -/
def perform (scope : Scope) : Change → Except StructureError Unit × Scope
  | .push node =>
      match scope.push node with
      | .ok pushed => (.ok (), pushed)
      | .error refusal => (.error refusal, scope)
  | .pushAll nodes => scope.pushBatch nodes []
  | .param key value => (.ok (), scope.param key value)
  | .setName name => (.ok (), { scope with name })
  | .setType scopeType => (.ok (), { scope with scopeType })
  | .setLocation location => (.ok (), { scope with location })
  | .setDefaults defaults => (.ok (), { scope with defaults })

/-- What becomes of changes that are made one after the other, no matter if some are refused, and
what the scope is at the end. -/
def performAll (scope : Scope) : List Change → List (Except StructureError Unit) × Scope
  | [] => ([], scope)
  | change :: rest =>
      let (outcome, changed) := scope.perform change
      let (outcomes, last) := changed.performAll rest
      (outcome :: outcomes, last)

/-- To offer nodes together is to offer them one by one, except that nothing remains done if one of
them is refused. -/
structure TakesTogether (scope : Scope) (nodes : List Node) : Prop where
  atomic : scope.perform (.pushAll nodes) =
    match scope.pushEach nodes with
    | (.ok (), pushed) => (.ok (), pushed)
    | (.error refusal, _) => (.error refusal, scope)
  pushAll_eq : scope.pushAll nodes =
    match scope.pushEach nodes with
    | (.ok (), pushed) => .ok pushed
    | (.error refusal, _) => .error refusal
  pushed_iff : ∀ pushed, scope.pushEach nodes = (.ok (), pushed) ↔
    ∃ batch : List Child, nodes = batch.map Child.node ∧ pushed = scope.extend batch
  refused_iff : ∀ refusal kept, scope.pushEach nodes = (.error refusal, kept) ↔
    ∃ (batch : List Child) (content : Value) (after : List Node),
      nodes = batch.map Child.node ++ .value content :: after ∧
        refusal = .foreignChild content.kind scope.name ∧ kept = scope.extend batch

/-! ### What becomes of nodes -/

theorem push_node (scope : Scope) (child : Child) :
    scope.push child.node = .ok (scope.extend [child]) := by
  rw [push, Node.toChild_node, extend]

theorem pushEach_append (scope : Scope) (batch : List Child) (rest : List Node) :
    scope.pushEach (batch.map Child.node ++ rest) = (scope.extend batch).pushEach rest := by
  induction batch generalizing scope with
  | nil => rw [extend_nil, List.map_nil, List.nil_append]
  | cons child batch ih =>
      rw [List.map_cons, List.cons_append, pushEach, push_node]
      refine (ih (scope.extend [child])).trans ?_
      rw [extend_extend, List.singleton_append]

theorem pushBatch_append (scope : Scope) (batch held : List Child) (rest : List Node) :
    scope.pushBatch (batch.map Child.node ++ rest) held =
      scope.pushBatch rest (held ++ batch) := by
  induction batch generalizing held with
  | nil => simp
  | cons child batch ih =>
      rw [List.map_cons, List.cons_append, pushBatch, Node.toChild_node]
      refine (ih (held ++ [child])).trans ?_
      rw [List.append_assoc, List.singleton_append]

theorem childrenOf_append (batch : List Child) (rest : List Node) :
    childrenOf (batch.map Child.node ++ rest) =
      match childrenOf rest with
      | .ok children => .ok (batch ++ children)
      | .error kind => .error kind := by
  induction batch with
  | nil => cases found : childrenOf rest <;> simp [found]
  | cons child batch ih =>
      rw [List.map_cons, List.cons_append, childrenOf, Node.toChild_node, ih]
      cases childrenOf rest <;> rfl

theorem pushEach_eq_ok_iff {scope pushed : Scope} {nodes : List Node} :
    scope.pushEach nodes = (.ok (), pushed) ↔
      ∃ batch : List Child, nodes = batch.map Child.node ∧ pushed = scope.extend batch := by
  constructor
  · intro run
    rcases Node.exists_children_append nodes with ⟨batch, _, rfl, rfl | ⟨content, after, rfl⟩⟩
    · rw [pushEach_append] at run
      cases run
      exact ⟨batch, List.append_nil _, rfl⟩
    · rw [pushEach_append] at run
      cases run
  · rintro ⟨batch, rfl, rfl⟩
    have run := scope.pushEach_append batch []
    rwa [List.append_nil] at run

theorem pushEach_eq_error_iff {scope kept : Scope} {nodes : List Node}
    {refusal : StructureError} :
    scope.pushEach nodes = (.error refusal, kept) ↔
      ∃ (batch : List Child) (content : Value) (after : List Node),
        nodes = batch.map Child.node ++ .value content :: after ∧
          refusal = .foreignChild content.kind scope.name ∧ kept = scope.extend batch := by
  constructor
  · intro run
    rcases Node.exists_children_append nodes with ⟨batch, _, rfl, rfl | ⟨content, after, rfl⟩⟩
    · rw [pushEach_append] at run
      cases run
    · rw [pushEach_append] at run
      cases run
      exact ⟨batch, content, after, rfl, rfl, rfl⟩
  · rintro ⟨batch, content, after, rfl, rfl, rfl⟩
    exact scope.pushEach_append batch (.value content :: after)

theorem takesTogether (scope : Scope) (nodes : List Node) : scope.TakesTogether nodes where
  atomic := by
    rcases Node.exists_children_append nodes with ⟨batch, _, rfl, rfl | ⟨content, after, rfl⟩⟩
    · rw [perform, pushBatch_append, pushEach_append]
      rfl
    · rw [perform, pushBatch_append, pushEach_append]
      rfl
  pushAll_eq := by
    rcases Node.exists_children_append nodes with ⟨batch, _, rfl, rfl | ⟨content, after, rfl⟩⟩
    · rw [pushAll, childrenOf_append, pushEach_append]
      simp only [childrenOf, pushEach, extend, List.append_nil]
    · rw [pushAll, childrenOf_append, pushEach_append]
      rfl
  pushed_iff _ := pushEach_eq_ok_iff
  refused_iff _ _ := pushEach_eq_error_iff

/-! ### What becomes of children -/

theorem children_perform (scope : Scope) (change : Change) :
    (scope.perform change).2.children.map Child.node =
      scope.children.map Child.node ++ change.accepted (scope.perform change).1 := by
  have unchanged : scope.children.map Child.node = scope.children.map Child.node ++ [] :=
    (List.append_nil _).symm
  cases change with
  | push node =>
      cases node with
      | declaration content => exact List.map_append
      | scope content => exact List.map_append
      | value content => exact unchanged
  | pushAll nodes =>
      rw [(scope.takesTogether nodes).atomic]
      rcases Node.exists_children_append nodes with ⟨batch, _, rfl, rfl | ⟨content, after, rfl⟩⟩
      · rw [pushEach_append, List.append_nil]
        exact List.map_append
      · rw [pushEach_append]
        exact unchanged
  | param => exact unchanged
  | setName => exact unchanged
  | setType => exact unchanged
  | setLocation => exact unchanged
  | setDefaults => exact unchanged

/-- Whatever is done to a scope, its children are those it had and those it accepted. -/
theorem children_performAll (scope : Scope) (changes : List Change) :
    (scope.performAll changes).2.children.map Child.node =
      scope.children.map Child.node ++
        (List.zipWith Change.accepted changes (scope.performAll changes).1).flatten := by
  induction changes generalizing scope with
  | nil => exact (List.append_nil _).symm
  | cons change changes ih =>
      refine (ih (scope.perform change).2).trans ?_
      rw [children_perform, List.append_assoc]
      rfl

/-- Nodes are taken together as they are taken one by one, or not at all, and whatever is done to a
scope, refused or not, adds to its children just the nodes that were taken. -/
theorem takesTogether_and_adds_accepted (scope : Scope) :
    (∀ nodes, scope.TakesTogether nodes) ∧
      ∀ changes, (scope.performAll changes).2.children.map Child.node =
        scope.children.map Child.node ++
          (List.zipWith Change.accepted changes (scope.performAll changes).1).flatten :=
  ⟨scope.takesTogether, scope.children_performAll⟩

end Scope

end Manifest
