import Manifest.Lowering.Lowered
import Manifest.Provider.Memory

/-!
# Histories of runs

The history of a run is the tree that was lowered, with a mark at each declaration that tells what
has become of it: its construction succeeded, its construction failed, or it was merged into an
earlier resource of its scope and never constructed. A history is read off the run itself: at each
child it looks at the contents and the session that lowering has there.

What a history says about a scope is computed from it by plain recursion: which resources there are
to be (`History.slots`), which declaration of an identity is the first that was built and which ones
follow it (`History.firstBuilt?`), which constructions were attempted (`History.attempts`), and what
is left of the tree without the failed declarations (`History.withoutFailed`).
-/

namespace Manifest

/-- What has become of a declaration in a run. -/
inductive Fate where
  | built
  | failed
  /-- It was merged into an earlier resource of its scope and never constructed. -/
  | merged
  deriving DecidableEq, Repr

/-- Children of a scope, with the fate of each declaration among them and under them. -/
inductive History where
  | nil
  | entry (declaration : Declaration) (fate : Fate) (rest : History)
  | nested (name : String) (scopeType : Option String) (location : Location)
      (defaults : Option Attributes) (inner rest : History)

/-- What stands in a container at one place. -/
inductive Slot where
  | resource (identity : Identity)
  | container (name : String) (scopeType : Option String) (location : Location)
  deriving DecidableEq

namespace History

def children : History → List Child
  | .nil => []
  | .entry declaration _ rest => .declaration declaration :: rest.children
  | .nested name scopeType location defaults inner rest =>
      .scope ⟨some name, scopeType, location, defaults, inner.children⟩ :: rest.children

def append : History → History → History
  | .nil, later => later
  | .entry declaration fate rest, later => .entry declaration fate (rest.append later)
  | .nested name scopeType location defaults inner rest, later =>
      .nested name scopeType location defaults inner (rest.append later)

/-- The history without the declarations whose construction failed, at any depth. -/
def withoutFailed : History → History
  | .nil => .nil
  | .entry _ .failed rest => rest.withoutFailed
  | .entry declaration .built rest => .entry declaration .built rest.withoutFailed
  | .entry declaration .merged rest => .entry declaration .merged rest.withoutFailed
  | .nested name scopeType location defaults inner rest =>
      .nested name scopeType location defaults inner.withoutFailed rest.withoutFailed

/-- The direct declarations of an identity, in order and whatever their fate. -/
def namesakes (identity : Identity) : History → List Declaration
  | .nil => []
  | .entry declaration _ rest =>
      if declaration.identity = identity then declaration :: rest.namesakes identity
      else rest.namesakes identity
  | .nested _ _ _ _ _ rest => rest.namesakes identity

/-- The first direct declaration of an identity whose construction succeeded, and all direct
declarations of that identity after it. -/
def firstBuilt? (identity : Identity) : History → Option (Declaration × List Declaration)
  | .nil => none
  | .entry declaration fate rest =>
      if declaration.identity = identity ∧ fate = .built then
        some (declaration, rest.namesakes identity)
      else rest.firstBuilt? identity
  | .nested _ _ _ _ _ rest => rest.firstBuilt? identity

/-- What a container has to hold: something for each direct scope, and something for each identity
where a direct declaration of it was first built. The identities built before are given. -/
def slots (before : List Identity) : History → List Slot
  | .nil => []
  | .entry declaration .built rest =>
      if declaration.identity ∈ before then rest.slots before
      else .resource declaration.identity :: rest.slots (declaration.identity :: before)
  | .entry _ .failed rest => rest.slots before
  | .entry _ .merged rest => rest.slots before
  | .nested name scopeType location _ _ rest =>
      .container name scopeType location :: rest.slots before

def builtHere : History → List Identity
  | .nil => []
  | .entry declaration .built rest => declaration.identity :: rest.builtHere
  | .entry _ .failed rest => rest.builtHere
  | .entry _ .merged rest => rest.builtHere
  | .nested _ _ _ _ _ rest => rest.builtHere

/-- The constructions that were attempted, depth first and in order, and whether they succeeded. -/
def attempts : History → List (Identity × Bool)
  | .nil => []
  | .entry declaration .built rest => (declaration.identity, true) :: rest.attempts
  | .entry declaration .failed rest => (declaration.identity, false) :: rest.attempts
  | .entry _ .merged rest => rest.attempts
  | .nested _ _ _ _ inner rest => inner.attempts ++ rest.attempts

/-- The scopes under some children with their names and histories, depth first and in order. -/
def scopes : History → List (String × History)
  | .nil => []
  | .entry _ _ rest => rest.scopes
  | .nested name _ _ _ inner rest => (name, inner) :: (inner.scopes ++ rest.scopes)

end History

section

variable {σ ι : Type} (provider : Provider σ ι) (options : Options)

/-- The fate of a declaration that meets some contents in a session. -/
def fateOf (declaration : Declaration) (contents : Contents ι) (session : Session σ) : Fate :=
  if contents.positions.contains declaration.identity then .merged
  else
    match provider.lookup declaration.resourceType with
    | none => .failed
    | some resourceType =>
        match (resourceType.construct declaration.attributes session.world).1 with
        | .ok _ => .built
        | .error _ => .failed

mutual

/-- What happens to the children of a scope that is lowered in a session. It ends where a fatal
error does. -/
def historyOf : Scope → Session σ → History
  | ⟨none, _, _, _, _⟩, _ => .nil
  | ⟨some name, scopeType, _, defaults, children⟩, session =>
      historyAmong name children .empty (openContainer name scopeType defaults session).2

/-- What happens while children of a scope are lowered into some contents. -/
def historyAmong (scope : String) : List Child → Contents ι → Session σ → History
  | [], _, _ => .nil
  | .declaration declaration :: rest, contents, session =>
      match placeDeclaration provider options scope declaration contents session with
      | (.error _, _) => .nil
      | (.ok next, after) =>
          .entry declaration (fateOf provider declaration contents session)
            (historyAmong scope rest next after)
  | .scope nested :: rest, contents, session =>
      match nested.name with
      | none => .nil
      | some name =>
          .nested name nested.scopeType nested.location nested.defaults (historyOf nested session)
            (match resolveScope provider options nested session with
              | (.error _, _) => .nil
              | (.ok container, after) =>
                  historyAmong scope rest (contents.addContainer container) after)

end

/-- What happens to the children of a tree that is lowered in a world. -/
def Scope.history (scope : Scope) (world : σ) : History :=
  historyOf provider options scope (.start world)

/-- A tree without the declarations whose construction fails when it is lowered in a world. -/
def Scope.withoutFailed (scope : Scope) (world : σ) : Scope :=
  { scope with children := (scope.history provider options world).withoutFailed.children }

end

namespace Memory

/-- The provider that knows nothing but files, which it can find again. -/
def files : Provider World Instance := provider [⟨"file", true, []⟩]

theorem head?_named (name : String) :
    (Dictionary.empty.insert Attributes.nameKey (.string name) : Attributes).entries.head? =
      some (Attributes.nameKey, .string name) := rfl

theorem a_ne_empty : "/a" ≠ "" := by decide

theorem b_ne_empty : "/b" ≠ "" := by decide

theorem c_ne_empty : "/c" ≠ "" := by decide

/-- A file that is declared in some line, with attributes besides its name. -/
def file (name : String) (line : UInt32) (entries : List (String × Value)) (noName : name ≠ "") :
    Declaration :=
  Declaration.withAttributes
    { identity := ⟨"file", name⟩
      attributes := Dictionary.empty.insert Attributes.nameKey (.string name)
      location := ⟨some "site.pp", some line⟩
      resourceType_ne_empty := (by decide : "file" ≠ "")
      name_ne_empty := noName
      head?_entries := head?_named name } entries

/-- A tree in which each fate occurs, and each of two identities in more than one place. -/
def sampleTree : Scope :=
  { Scope.named "main" with children := [
    .declaration (file "/a" 1 [("mode", .integer 600)] a_ne_empty),
    .declaration (file "/b" 2 [("fail", .string "plain")] b_ne_empty),
    .scope { Scope.named "inner" with children := [
      .declaration (file "/a" 4 [("fail", .string "partial")] a_ne_empty),
      .declaration (file "/c" 5 [] c_ne_empty)] },
    .declaration (file "/b" 7 [("owner", .string "root")] b_ne_empty),
    .declaration (file "/a" 8 [("mode", .integer 644)] a_ne_empty)] }

example : (sampleTree.history files .default .empty).attempts =
    [(⟨"file", "/a"⟩, true), (⟨"file", "/b"⟩, false), (⟨"file", "/a"⟩, false),
      (⟨"file", "/c"⟩, true), (⟨"file", "/b"⟩, true)] := by
  decide +kernel

end Memory

end Manifest
