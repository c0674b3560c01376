import Mathlib.Data.List.Nodup
import Mathlib.Data.List.Perm.Subperm
import Manifest.Scope

/-!
# Dictionaries that agree

Two dictionaries agree if they hold the same entries, in whatever order. Asking for the value of a
key does not tell them apart, and nothing else is needed for them to agree (`agrees_iff`).
-/

namespace Manifest

universe u v

namespace Dictionary

variable {κ : Type u} {ν : Type v} [DecidableEq κ] [DecidableEq ν] {left right : Dictionary κ ν}

theorem agrees_iff_perm : left.agrees right = true ↔ left.entries.Perm right.entries := by
  simp only [agrees, Bool.and_eq_true, beq_iff_eq, List.all_eq_true, get?_eq_some_iff]
  constructor
  · rintro ⟨sizes, within⟩
    have nodup : left.entries.Nodup := .of_map Prod.fst left.distinct
    have held : left.entries.Subperm right.entries := List.subperm_of_subset nodup within
    exact held.perm_of_length_le (Nat.le_of_eq sizes.symm)
  · intro order
    exact ⟨order.length_eq, fun entry => order.mem_iff.1⟩

/-- Dictionaries agree if and only if every key has the same value in both. -/
theorem agrees_iff : left.agrees right = true ↔ ∀ key, left.get? key = right.get? key := by
  have nodup : left.entries.Nodup := .of_map Prod.fst left.distinct
  have nodup' : right.entries.Nodup := .of_map Prod.fst right.distinct
  rw [agrees_iff_perm, List.perm_ext_iff_of_nodup nodup nodup']
  constructor
  · intro same key
    apply Option.ext
    intro value
    rw [get?_eq_some_iff, get?_eq_some_iff, same]
  · rintro same ⟨key, value⟩
    rw [← get?_eq_some_iff, ← get?_eq_some_iff, same]

/-- It does not matter in which order the entries of a dictionary are inserted. -/
theorem agrees_insertAll (same : left.agrees right = true) (dictionary : Dictionary κ ν) :
    (dictionary.insertAll left.entries).agrees (dictionary.insertAll right.entries) = true := by
  rw [agrees_iff] at same ⊢
  intro key
  have given : Entries.lookup key left.entries = Entries.lookup key right.entries := same key
  rw [get?_insertAll left.distinct, get?_insertAll right.distinct, given]

end Dictionary

theorem Declaration.agrees_iff {left right : Declaration} :
    left.agrees right = true ↔
      left.identity = right.identity ∧ left.attributes.agrees right.attributes = true ∧
        left.location = right.location := by
  simp [agrees, and_assoc]

end Manifest
