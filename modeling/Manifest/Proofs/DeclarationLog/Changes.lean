import Mathlib.Data.List.DropRight
import Manifest.Proofs.DeclarationLog
import Manifest.Proofs.Lowering.History

/-!
# What a log holds

Declarations are registered in a log, and the log is cleared (`DeclarationLog.Change`), in any
order and as often as one likes. What it holds then are the declarations that were registered since
it was last cleared (`Change.sinceCleared`), and all that it answers agrees with them
(`DeclarationLog.Holds`).

The index is a part of this: each position in it is that of a declaration with the identity under
which the position is kept. It cannot be read off the changes, so it is carried along as
`DeclarationLog.Consistent`.
-/

namespace Manifest

namespace DeclarationLog

/-- One change of a log. -/
inductive Change where
  | register (declaration : Declaration)
  | clear

namespace Change

def declaration? : Change → Option Declaration
  | .register declaration => some declaration
  | .clear => none

/-- The declarations that are registered after the last clearing, in order. -/
def sinceCleared (changes : List Change) : List Declaration :=
  (changes.rtakeWhile fun change => change.declaration?.isSome).filterMap declaration?

theorem sinceCleared_append_register (changes : List Change) (declaration : Declaration) :
    sinceCleared (changes ++ [.register declaration]) =
      sinceCleared changes ++ [declaration] := by
  rw [sinceCleared, List.rtakeWhile_concat_pos _ _ _ rfl, List.filterMap_append]
  rfl

theorem sinceCleared_append_clear (changes : List Change) :
    sinceCleared (changes ++ [.clear]) = [] := by
  rw [sinceCleared, List.rtakeWhile_concat_neg _ _ _ (by simp [declaration?])]
  rfl

end Change

def apply (log : DeclarationLog) : Change → DeclarationLog
  | .register declaration => log.register declaration
  | .clear => log.clear

/-- What a log becomes by changes that are made one after the other. -/
def applyAll (log : DeclarationLog) (changes : List Change) : DeclarationLog :=
  changes.foldl apply log

theorem applyAll_append_singleton (log : DeclarationLog) (changes : List Change)
    (change : Change) :
    log.applyAll (changes ++ [change]) = (log.applyAll changes).apply change :=
  List.foldl_append

theorem declarations_applyAll (changes : List Change) :
    (empty.applyAll changes).declarations = Change.sinceCleared changes := by
  induction changes using List.reverseRecOn with
  | nil => rfl
  | append_singleton earlier change ih =>
      rw [applyAll_append_singleton]
      cases change with
      | register declaration =>
          rw [Change.sinceCleared_append_register, ← ih]
          rfl
      | clear =>
          rw [Change.sinceCleared_append_clear]
          rfl

theorem Reachable.applyAll {log : DeclarationLog} (reachable : log.Reachable)
    (changes : List Change) : (log.applyAll changes).Reachable := by
  induction changes using List.reverseRecOn with
  | nil => exact reachable
  | append_singleton earlier change ih =>
      rw [applyAll_append_singleton]
      cases change with
      | register declaration => exact ih.register declaration
      | clear => exact ih.clear

namespace Consistent

variable {log : DeclarationLog}

/-- What is found is the last declaration of the identity. -/
theorem get?_eq_some_iff (consistent : log.Consistent) (identity : Identity)
    (declaration : Declaration) :
    log.get? identity = some declaration ↔
      ∃ earlier later, log.declarations = earlier ++ declaration :: later ∧
        declaration.identity = identity ∧ ∀ other ∈ later, other.identity ≠ identity := by
  rw [consistent.get?_eq, List.find?_eq_some_iff_append]
  simp only [decide_eq_true_eq, Bool.not_eq_true', decide_eq_false_iff_not]
  constructor
  · rintro ⟨own, later, earlier, reversed, others⟩
    refine ⟨earlier.reverse, later.reverse, ?_, own, ?_⟩
    · rw [← List.reverse_reverse log.declarations, reversed]
      simp
    · intro other member
      exact others other (List.mem_reverse.1 member)
  · rintro ⟨earlier, later, split, own, others⟩
    refine ⟨own, later.reverse, earlier.reverse, ?_, ?_⟩
    · rw [split]
      simp
    · intro other member
      exact others other (List.mem_reverse.1 member)

theorem get?_eq_none_iff (consistent : log.Consistent) (identity : Identity) :
    log.get? identity = none ↔
      ∀ declaration ∈ log.declarations, declaration.identity ≠ identity := by
  rw [consistent.get?_eq, List.find?_eq_none]
  simp only [List.mem_reverse, decide_eq_true_eq, ne_eq]

/-- A position of the index is that of a declaration with the identity under which it is kept. -/
theorem exists_declaration_of_mem_positions (consistent : log.Consistent) {identity : Identity}
    {position : Nat} (kept : (identity, position) ∈ log.positions.entries) :
    ∃ declaration, log.declarations[position]? = some declaration ∧
      declaration.identity = identity := by
  rw [← Dictionary.get?_eq_some_iff] at kept
  have inside := consistent.position_lt kept
  have found : log.get? identity = some log.declarations[position] := by
    simp [get?, kept, inside]
  refine ⟨log.declarations[position], List.getElem?_eq_getElem inside, ?_⟩
  rcases (consistent.get?_eq_some_iff identity _).1 found with ⟨_, _, _, own, _⟩
  exact own

end Consistent

/-- A log holds some declarations, in order, and all of its answers agree with them. -/
structure Holds (log : DeclarationLog) (declarations : List Declaration) : Prop where
  declarations_eq : log.declarations = declarations
  /-- What is found under an identity is the last declaration with it. -/
  get?_eq_some_iff : ∀ identity declaration, log.get? identity = some declaration ↔
    ∃ earlier later, declarations = earlier ++ declaration :: later ∧
      declaration.identity = identity ∧ ∀ other ∈ later, other.identity ≠ identity
  get?_eq_none_iff : ∀ identity, log.get? identity = none ↔
    ∀ declaration ∈ declarations, declaration.identity ≠ identity
  contains_iff : ∀ identity, log.contains identity = true ↔
    ∃ declaration, log.get? identity = some declaration
  size_eq : log.size = declarations.length
  isEmpty_iff : log.isEmpty = true ↔ declarations = []
  /-- The index points at declarations of the log, each with the identity that leads to it. -/
  positions : ∀ identity position, (identity, position) ∈ log.positions.entries →
    ∃ declaration, log.declarations[position]? = some declaration ∧
      declaration.identity = identity

theorem Consistent.holds {log : DeclarationLog} (consistent : log.Consistent) :
    log.Holds log.declarations where
  declarations_eq := rfl
  get?_eq_some_iff := consistent.get?_eq_some_iff
  get?_eq_none_iff := consistent.get?_eq_none_iff
  contains_iff identity := by rw [consistent.contains_eq, Option.isSome_iff_exists]
  size_eq := rfl
  isEmpty_iff := List.isEmpty_iff
  positions _ _ := consistent.exists_declaration_of_mem_positions

/-- Whatever is done to a log, it holds what was registered since it was last cleared. -/
theorem holds_applyAll (changes : List Change) :
    (empty.applyAll changes).Holds (Change.sinceCleared changes) := by
  have consistent := (Reachable.empty.applyAll changes).consistent
  rw [← declarations_applyAll]
  exact consistent.holds

end DeclarationLog

/-- Two files are declared before the log is cleared, and one of them twice after that. -/
def Memory.sampleChanges : List DeclarationLog.Change := [
  .register (file "/a" 1 [] a_ne_empty),
  .register (file "/c" 2 [] c_ne_empty),
  .clear,
  .register (file "/a" 4 [("mode", .integer 600)] a_ne_empty),
  .register (file "/b" 5 [] b_ne_empty),
  .register (file "/a" 6 [("mode", .integer 644)] a_ne_empty)]

/-- The log holds the last three declarations. The later one of the file that is declared twice is
found, and the file that is not declared again is forgotten. -/
theorem DeclarationLog.holds_applyAll_sampleChanges :
    let log := DeclarationLog.empty.applyAll Memory.sampleChanges
    (DeclarationLog.Change.sinceCleared Memory.sampleChanges).map (·.location.line) =
        [some 4, some 5, some 6] ∧
      (log.get? ⟨"file", "/a"⟩).map (·.location.line) = some (some 6) ∧
      log.get? ⟨"file", "/c"⟩ = none ∧
      log.Holds (DeclarationLog.Change.sinceCleared Memory.sampleChanges) :=
  ⟨by decide +kernel, by decide +kernel, by decide +kernel,
    DeclarationLog.holds_applyAll Memory.sampleChanges⟩

end Manifest
