import Manifest.DeclarationLog

/-!
# The log and its index

The index of a log that came about by registering and clearing agrees with the declarations
(`DeclarationLog.Consistent`): an identity is found if and only if it was declared, and what is found
is the last declaration of it.

The dangling references of a scope are all those in the attributes of its declarations, at any depth
of the scope and of the values, whose targets are not in the index
(`DeclarationLog.danglingReferences_eq`). The default attributes of scopes are not looked at.
-/

namespace Manifest

/-- The identities that some attributes refer to, from the first entry to the last. -/
def Attributes.references (attributes : Attributes) : List Identity :=
  attributes.entries.flatMap fun entry => entry.2.references

namespace DeclarationLog

/-- The logs that a session can come to. -/
inductive Reachable : DeclarationLog → Prop where
  | empty : Reachable .empty
  | register {log : DeclarationLog} (earlier : Reachable log) (declaration : Declaration) :
      Reachable (log.register declaration)
  | clear {log : DeclarationLog} (earlier : Reachable log) : Reachable log.clear

/-- The index points at declarations of the log, for each identity at the last one. -/
structure Consistent (log : DeclarationLog) : Prop where
  position_lt : ∀ {identity position}, log.positions.get? identity = some position →
    position < log.declarations.length
  get?_eq : ∀ identity, log.get? identity =
    log.declarations.reverse.find? fun declaration => declaration.identity = identity

variable {log : DeclarationLog}

theorem consistent_empty : Consistent .empty where
  position_lt found := by
    simp [empty, Dictionary.empty, Dictionary.get?, Entries.lookup] at found
  get?_eq _ := rfl

theorem Consistent.register (consistent : log.Consistent) (declaration : Declaration) :
    (log.register declaration).Consistent where
  position_lt {identity position} found := by
    rw [DeclarationLog.register, Dictionary.get?_insert] at found
    simp only [DeclarationLog.register, List.length_append, List.length_singleton]
    split at found
    · simp only [Option.some.injEq] at found
      omega
    · have inside := consistent.position_lt found
      omega
  get?_eq identity := by
    simp only [get?, DeclarationLog.register, Dictionary.get?_insert, List.reverse_append,
      List.reverse_singleton, List.singleton_append, List.find?_cons]
    by_cases own : declaration.identity = identity
    · simp [own]
    · simp only [own, if_false, decide_false]
      rw [← consistent.get?_eq identity, get?]
      -- no position that was there before is the one of the new declaration
      cases found : log.positions.get? identity with
      | none => rfl
      | some position =>
          simp [List.getElem?_append_left (consistent.position_lt found)]

theorem Reachable.consistent (reachable : log.Reachable) : log.Consistent := by
  induction reachable with
  | empty => exact consistent_empty
  | register earlier declaration ih => exact ih.register declaration
  | clear earlier ih => exact consistent_empty

theorem Reachable.registerAll (reachable : log.Reachable) (declarations : List Declaration) :
    (log.registerAll declarations).Reachable := by
  induction declarations generalizing log with
  | nil => exact reachable
  | cons declaration rest ih => exact ih (reachable.register declaration)

theorem declarations_registerAll (log : DeclarationLog) (declarations : List Declaration) :
    (log.registerAll declarations).declarations = log.declarations ++ declarations := by
  induction declarations generalizing log with
  | nil => exact (List.append_nil _).symm
  | cons declaration rest ih =>
      apply (ih (log.register declaration)).trans
      simp [register]

namespace Consistent

theorem contains_eq (consistent : log.Consistent) (identity : Identity) :
    log.contains identity = (log.get? identity).isSome := by
  rw [contains, Dictionary.contains, get?]
  cases found : log.positions.get? identity with
  | none => rfl
  | some position => simp [consistent.position_lt found]

/-- The log contains what was declared. -/
theorem contains_iff (consistent : log.Consistent) (identity : Identity) :
    log.contains identity = true ↔
      ∃ declaration ∈ log.declarations, declaration.identity = identity := by
  rw [consistent.contains_eq, consistent.get?_eq]
  simp

end Consistent

/-! ### Dangling references -/

mutual

/-- The dangling references in a value are those of its references that are not in the index. -/
theorem danglingIn_eq (log : DeclarationLog) (declaration : Declaration) (key : String)
    (value : Value) :
    log.danglingIn declaration key value =
      (value.references.filter fun target => !log.contains target).map fun target =>
        ⟨declaration.identity, key, target, declaration.location⟩ := by
  cases value with
  | reference target =>
      by_cases known : log.contains target = true
      · simp [danglingIn, Value.references, known]
      · simp [danglingIn, Value.references, known]
  | list items => exact danglingInAll_eq log declaration key items
  | string _ => rfl
  | integer _ => rfl
  | boolean _ => rfl

theorem danglingInAll_eq (log : DeclarationLog) (declaration : Declaration) (key : String)
    (values : List Value) :
    log.danglingInAll declaration key values =
      ((Value.referencesAll values).filter fun target => !log.contains target).map fun target =>
        ⟨declaration.identity, key, target, declaration.location⟩ := by
  cases values with
  | nil => rfl
  | cons value rest =>
      rw [danglingInAll, danglingIn_eq log declaration key value,
        danglingInAll_eq log declaration key rest, Value.referencesAll, List.filter_append,
        List.map_append]

end

theorem danglingAmong_eq (log : DeclarationLog) (children : List Child) :
    log.danglingAmong children = (Scope.declarationsIn children).flatMap log.danglingOf := by
  induction children using Scope.children_induction with
  | nil => rfl
  | declaration declaration rest ih =>
      simp only [danglingAmong, Scope.declarationsIn, List.flatMap_cons, ih]
  | scope scope rest ihInner ihRest =>
      rcases scope with ⟨_, _, _, _, children⟩
      simp only [danglingAmong, danglingReferences, Scope.declarationsIn, Scope.declarations,
        List.flatMap_append, ihRest]
      rw [ihInner]

/-- The dangling references of a scope are those of its declarations. -/
theorem danglingReferences_eq (log : DeclarationLog) (scope : Scope) :
    log.danglingReferences scope = scope.declarations.flatMap log.danglingOf := by
  rcases scope with ⟨_, _, _, _, children⟩
  exact log.danglingAmong_eq children

theorem danglingOf_eq_nil_iff (log : DeclarationLog) (declaration : Declaration) :
    log.danglingOf declaration = [] ↔
      ∀ target ∈ declaration.attributes.references, log.contains target = true := by
  simp only [danglingOf, danglingIn_eq, Attributes.references, List.flatMap_eq_nil_iff,
    List.map_eq_nil_iff, List.filter_eq_nil_iff, List.mem_flatMap, Bool.not_eq_true',
    Bool.not_eq_false]
  constructor
  · rintro none target ⟨entry, present, refers⟩
    exact none entry present target refers
  · intro known entry present target refers
    exact known target ⟨entry, present, refers⟩

/-- No reference dangles if and only if all that declarations refer to was declared. -/
theorem danglingReferences_eq_nil_iff (log : DeclarationLog) (scope : Scope) :
    log.danglingReferences scope = [] ↔
      ∀ declaration ∈ scope.declarations, ∀ target ∈ declaration.attributes.references,
        log.contains target = true := by
  simp only [danglingReferences_eq, List.flatMap_eq_nil_iff, danglingOf_eq_nil_iff]

end DeclarationLog

end Manifest
