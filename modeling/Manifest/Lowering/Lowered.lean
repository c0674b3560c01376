import Manifest.Lowering.Resolution

/-!
# Lowering a whole tree

`lower` lowers a tree of scopes in a session of its own. What it gives back is the realized tree and
everything that was left out of it.
-/

namespace Manifest

/-- A realized tree and the declarations that are missing from it. -/
structure Lowered (ι : Type) where
  root : Realized ι
  failures : List Failure

namespace Lowered

/-- Whether every declaration has become a resource or a part of one. -/
def isComplete {ι : Type} (lowered : Lowered ι) : Bool :=
  lowered.failures.isEmpty

end Lowered

/-- Lowers a tree in a world. -/
def lower {σ ι : Type} (provider : Provider σ ι) (options : Options) (scope : Scope) (world : σ) :
    Outcome σ (Lowered ι) :=
  (resolveScope provider options scope (.start world)).andThen fun root session =>
    let (failures, after) := session.takeFailures
    (.ok ⟨root, failures⟩, after)

end Manifest
