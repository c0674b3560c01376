import Mathlib.Data.List.Forall2
import Manifest.Proofs.Lowering.Realization

/-!
# What containers tell about their scopes

Each scope of a tree that is lowered to the end has a container in its place
(`Realizes.forall₂_scopesIn`). The attributes of the container begin with the name and the type of
the scope, and the default attributes come behind these, in order. But defaults are set like any
other attributes. Where one of them has the key of the name or of the type, it takes the place of
what the scope says about itself, and this is the only way in which a container can lose it
(`Represents`).
-/

namespace Manifest

variable {σ ι : Type}

namespace Scope

mutual

/-- A scope and all scopes under it, depth first and in order. -/
def scopes : Scope → List Scope
  | ⟨name, scopeType, location, defaults, children⟩ =>
      ⟨name, scopeType, location, defaults, children⟩ :: scopesIn children

/-- All scopes among some children and under them, depth first and in order. -/
def scopesIn : List Child → List Scope
  | [] => []
  | .declaration _ :: rest => scopesIn rest
  | .scope scope :: rest => scope.scopes ++ scopesIn rest

end

theorem scopes_eq (scope : Scope) : scope.scopes = scope :: scopesIn scope.children := by
  cases scope
  rw [scopes]

/-- The default value of an attribute, if there is one. -/
def default? (scope : Scope) (key : String) : Option Value :=
  scope.defaults.bind fun defaults => defaults.get? key

/-- The keys of the default attributes, none if the scope has no defaults. -/
def defaultKeys (scope : Scope) : List String :=
  scope.defaults.elim [] Dictionary.keys

/-- The keys under which a container tells what its scope is. -/
def identityKeys (scope : Scope) : List String :=
  Attributes.nameKey :: scope.scopeType.toList.map fun _ => Attributes.typeKey

end Scope

/-- A container has the name and the type of a scope, and its attributes tell them unless defaults
say otherwise. All other defaults stand behind these attributes as they were given. -/
structure Represents (scope : Scope) (container : Realized ι) : Prop where
  name : scope.name = some container.name
  scopeType : container.scopeType = scope.scopeType
  name_iff : container.attributes.get? Attributes.nameKey = some (.string container.name) ↔
    ∀ value, scope.default? Attributes.nameKey = some value → value = .string container.name
  type_iff : ∀ text, scope.scopeType = some text →
    (container.attributes.get? Attributes.typeKey = some (.string text) ↔
      ∀ value, scope.default? Attributes.typeKey = some value → value = .string text)
  keys : container.attributes.keys =
    scope.identityKeys ++ scope.defaultKeys.filter (· ∉ scope.identityKeys)
  others : ∀ key ∉ scope.identityKeys, container.attributes.get? key = scope.default? key

/-! ### The attributes to begin with -/

/-- What is given by way of precedence is something if and only if nothing else has precedence. -/
theorem or_some_eq_some_iff {α : Type} {first : Option α} {content : α} :
    first.or (some content) = some content ↔ ∀ other, first = some other → other = content := by
  cases first <;> simp

theorem represents_seedAttributes (scope : Scope) {name : String} (named : scope.name = some name)
    (children : List (RealizedChild ι)) :
    Represents scope ⟨name, scope.scopeType, scope.location,
      seedAttributes name scope.scopeType scope.defaults, children⟩ where
  name := named
  scopeType := rfl
  name_iff := by
    have own : (seedAttributes name scope.scopeType none).get? Attributes.nameKey =
        some (.string name) := by
      cases scope.scopeType <;> rfl
    rw [get?_seedAttributes, own]
    exact or_some_eq_some_iff
  type_iff := by
    intro text typed
    have own : (seedAttributes name scope.scopeType none).get? Attributes.typeKey =
        some (.string text) := by
      rw [typed]
      rfl
    rw [get?_seedAttributes, own]
    exact or_some_eq_some_iff
  keys := by
    rw [keys_seedAttributes, keys_seedAttributes_none]
    rfl
  others := by
    intro key other
    have missing : (seedAttributes name scope.scopeType none).get? key = none := by
      rw [Dictionary.get?_eq_none_iff, keys_seedAttributes_none]
      exact other
    rw [get?_seedAttributes, missing, Option.or_none]
    rfl

/-! ### All containers of a tree -/

variable {provider : Provider σ ι} {options : Options}

/-- Containers tell what the scopes are in whose places they stand. -/
theorem Realizes.forall₂_scopesIn {fits : Declaration → List Declaration → ι → Prop}
    {scope : String} {history : History} {children : List (RealizedChild ι)}
    (realizes : Realizes fits scope history children) :
    List.Forall₂ Represents (Scope.scopesIn history.children) (Realized.containersIn children) := by
  induction realizes with
  | nil => exact .nil
  | built once fit tail ih => exact ih
  | skipped unbuilt tail ih => exact ih
  | @nested _ name scopeType location defaults inner _ filled _ within tail ihWithin ihTail =>
      have here := represents_seedAttributes (ι := ι)
        ⟨some name, scopeType, location, defaults, inner.children⟩ rfl filled
      exact .cons here (List.rel_append ihWithin ihTail)

/-- In a tree that is lowered to the end there is one container for each scope, in its place. Its
name attribute is its name, and its type attribute the type of the scope if there is one, if and
only if no default says something else. All defaults with other keys come behind these two, with
their values and in order, and nothing else does. -/
theorem represents_of_lower {scope : Scope} {world : σ} {lowered : Lowered ι} {session : Session σ}
    (run : lower provider options scope world = (.ok lowered, session)) :
    List.Forall₂ Represents scope.scopes lowered.root.containers := by
  rcases filling_of_lower run with ⟨sameChildren, name, contents, last, named, filling, rfl, _⟩
  have realizes := filling.realizes provider.maintains_true Contents.indexed_empty .nil
  have inside := realizes.forall₂_scopesIn
  simp only [History.append, sameChildren] at inside
  rw [Scope.scopes_eq, openContainer_fst]
  exact .cons (represents_seedAttributes scope named contents.children) inside

/-- A node with a class inside, both with defaults that have nothing to do with what they are. -/
def Memory.treeOfDefaults : Scope :=
  { ((Scope.named "main").withType "node").param "group" (.string "staff") with children := [
    .declaration (file "/a" 2 [] a_ne_empty),
    .scope { ((((Scope.named "web").withType "class").param "owner" (.string "www")).param
        "mode" (.integer 644)) with children := [.declaration (file "/b" 4 [] b_ne_empty)] }] }

theorem represents_of_lower_treeOfDefaults :
    ∃ lowered session,
      lower Memory.files .default Memory.treeOfDefaults .empty = (.ok lowered, session) ∧
        lowered.root.containers.map (fun container => container.attributes.keys) =
          [["name", "type", "group"], ["name", "type", "owner", "mode"]] ∧
        List.Forall₂ Represents Memory.treeOfDefaults.scopes lowered.root.containers := by
  refine ⟨_, _, rfl, by decide +kernel, ?_⟩
  exact @represents_of_lower _ _ Memory.files .default Memory.treeOfDefaults .empty _ _ rfl

/-- A class with defaults that say that it is a node and has another name. -/
def Memory.treeOfMisleadingDefaults : Scope :=
  (((Scope.named "web").withType "class").param Attributes.nameKey (.string "other")).param
    Attributes.typeKey (.string "node")

theorem exists_container_misrepresents :
    ∃ lowered session,
      lower Memory.files .default Memory.treeOfMisleadingDefaults .empty = (.ok lowered, session) ∧
        ∃ container ∈ lowered.root.containers,
          container.name = "web" ∧ container.scopeType = some "class" ∧
            container.attributes.get? Attributes.nameKey = some (.string "other") ∧
            container.attributes.get? Attributes.typeKey = some (.string "node") :=
  ⟨_, _, rfl, _, List.mem_cons_self, rfl, rfl, by decide +kernel, by decide +kernel⟩

end Manifest
