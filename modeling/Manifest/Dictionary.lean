/-!
# Dictionaries

A dictionary is a finite map that remembers the order in which its keys were first inserted. Setting
a key that is already present keeps the key's place and replaces its value. Keys are distinct by
construction, so a dictionary is determined by its list of entries.

The main facts are `get?_insert`, which says what an insertion changes, and `keys_insert`, which
says where the inserted key stands.
-/

namespace Manifest

universe u v w

namespace Entries

variable {κ : Type u} {ν : Type v} [DecidableEq κ]

/-- The value of the first entry under a key. -/
def lookup (key : κ) : List (κ × ν) → Option ν
  | [] => none
  | (other, value) :: rest => if other = key then some value else lookup key rest

/-- Replaces the first entry under a key, or appends one. -/
def put (key : κ) (value : ν) : List (κ × ν) → List (κ × ν)
  | [] => [(key, value)]
  | (other, old) :: rest =>
      if other = key then (other, value) :: rest else (other, old) :: put key value rest

theorem lookup_put (key other : κ) (value : ν) (entries : List (κ × ν)) :
    lookup other (put key value entries) =
      if key = other then some value else lookup other entries := by
  induction entries with
  | nil => simp [put, lookup]
  | cons entry rest ih =>
      obtain ⟨first, old⟩ := entry
      by_cases hFirst : first = key
      · subst hFirst
        by_cases hOther : first = other <;> simp [put, lookup, hOther]
      · by_cases hOther : first = other
        · subst hOther
          simp [put, lookup, hFirst, Ne.symm hFirst]
        · simp [put, lookup, hFirst, hOther, ih]

theorem lookup_append (key : κ) (first second : List (κ × ν)) :
    lookup key (first ++ second) = (lookup key first).or (lookup key second) := by
  induction first with
  | nil => rfl
  | cons entry rest ih =>
      obtain ⟨other, value⟩ := entry
      by_cases asked : other = key
      · simp [lookup, asked]
      · simp [lookup, asked, ih]

theorem map_fst_put (key : κ) (value : ν) (entries : List (κ × ν)) :
    (put key value entries).map Prod.fst =
      if key ∈ entries.map Prod.fst then entries.map Prod.fst
      else entries.map Prod.fst ++ [key] := by
  induction entries with
  | nil => simp [put]
  | cons entry rest ih =>
      obtain ⟨first, old⟩ := entry
      by_cases hFirst : first = key
      · subst hFirst
        simp [put]
      · by_cases hRest : key ∈ rest.map Prod.fst
        · simp only [put, hFirst, if_false, List.map_cons, ih, hRest, if_true,
            List.mem_cons, or_true]
        · simp only [put, hFirst, if_false, List.map_cons, ih, hRest, List.mem_cons,
            Ne.symm hFirst, or_self, List.cons_append]

theorem nodup_map_fst_put {key : κ} {value : ν} {entries : List (κ × ν)}
    (distinct : (entries.map Prod.fst).Nodup) : ((put key value entries).map Prod.fst).Nodup := by
  rw [map_fst_put]
  split
  · exact distinct
  · next absent =>
      refine List.nodup_append.2 ⟨distinct, by simp, ?_⟩
      rintro present hPresent last hLast rfl
      exact absent (List.mem_singleton.1 hLast ▸ hPresent)

theorem lookup_eq_none_iff (key : κ) (entries : List (κ × ν)) :
    lookup key entries = none ↔ key ∉ entries.map Prod.fst := by
  induction entries with
  | nil => simp [lookup]
  | cons entry rest ih =>
      obtain ⟨first, old⟩ := entry
      by_cases hFirst : first = key
      · subst hFirst
        simp [lookup]
      · simp [lookup, hFirst, ih, Ne.symm hFirst]

/-- Where keys are distinct, what is found under a key are just the entries. -/
theorem lookup_eq_some_iff {entries : List (κ × ν)} (distinct : (entries.map Prod.fst).Nodup)
    (key : κ) (value : ν) : lookup key entries = some value ↔ (key, value) ∈ entries := by
  induction entries with
  | nil => simp [lookup]
  | cons entry rest ih =>
      obtain ⟨first, old⟩ := entry
      rw [List.map_cons, List.nodup_cons] at distinct
      by_cases hFirst : first = key
      · subst hFirst
        have elsewhere : (first, value) ∉ rest := by
          intro present
          exact distinct.1 (List.mem_map.2 ⟨(first, value), present, rfl⟩)
        simp [lookup, elsewhere, eq_comm]
      · simp [lookup, hFirst, Ne.symm hFirst, ih distinct.2]

/-- If a key can be told from all others after a change of keys, its value is found as before. -/
theorem lookup_map_of_separates {κ' : Type w} [DecidableEq κ'] (change : κ → κ') {key : κ}
    {entries : List (κ × ν)}
    (separates : ∀ entry ∈ entries, change entry.1 = change key → entry.1 = key) :
    lookup (change key) (entries.map fun entry => (change entry.1, entry.2)) =
      lookup key entries := by
  induction entries with
  | nil => rfl
  | cons entry rest ih =>
      obtain ⟨other, value⟩ := entry
      have further : ∀ entry ∈ rest, change entry.1 = change key → entry.1 = key := by
        intro entry present
        exact separates entry (List.mem_cons_of_mem _ present)
      have same : change other = change key ↔ other = key :=
        ⟨separates (other, value) List.mem_cons_self, congrArg change⟩
      simp only [List.map_cons, lookup, same, ih further]

theorem put_of_notMem {key : κ} {entries : List (κ × ν)} (absent : key ∉ entries.map Prod.fst)
    (value : ν) : put key value entries = entries ++ [(key, value)] := by
  induction entries with
  | nil => rfl
  | cons entry rest ih =>
      obtain ⟨first, old⟩ := entry
      rw [List.map_cons, List.mem_cons, not_or] at absent
      rw [put, if_neg (Ne.symm absent.1), ih absent.2, List.cons_append]

theorem eraseDups_of_nodup {keys : List κ} (distinct : keys.Nodup) : keys.eraseDups = keys := by
  induction keys with
  | nil => rfl
  | cons key rest ih =>
      rw [List.nodup_cons] at distinct
      have others : rest.filter (fun other => !other == key) = rest := by
        apply List.filter_eq_self.2
        intro other member
        have differs : other ≠ key := fun same => distinct.1 (same ▸ member)
        simpa using differs
      rw [List.eraseDups_cons, others, ih distinct.2]

end Entries

/-- A finite map that keeps its keys in the order of their first insertion. -/
structure Dictionary (κ : Type u) (ν : Type v) where
  entries : List (κ × ν)
  distinct : (entries.map Prod.fst).Nodup

namespace Dictionary

variable {κ : Type u} {ν : Type v}

@[ext]
theorem ext {left right : Dictionary κ ν} (same : left.entries = right.entries) : left = right := by
  cases left
  cases right
  simpa using same

def empty : Dictionary κ ν := ⟨[], List.nodup_nil⟩

instance : EmptyCollection (Dictionary κ ν) := ⟨empty⟩

instance : Inhabited (Dictionary κ ν) := ⟨empty⟩

/-- Keys, in the order of their first insertion. -/
def keys (dictionary : Dictionary κ ν) : List κ :=
  dictionary.entries.map Prod.fst

def size (dictionary : Dictionary κ ν) : Nat :=
  dictionary.entries.length

@[simp]
theorem keys_empty : (∅ : Dictionary κ ν).keys = [] := rfl

variable [DecidableEq κ]

instance [DecidableEq ν] : DecidableEq (Dictionary κ ν) := fun left right =>
  decidable_of_iff (left.entries = right.entries) ⟨ext, fun same => same ▸ rfl⟩

def get? (dictionary : Dictionary κ ν) (key : κ) : Option ν :=
  Entries.lookup key dictionary.entries

def contains (dictionary : Dictionary κ ν) (key : κ) : Bool :=
  (dictionary.get? key).isSome

/-- Sets the value of a key: a present key keeps its place, a new one goes to the end. -/
def insert (dictionary : Dictionary κ ν) (key : κ) (value : ν) : Dictionary κ ν :=
  ⟨Entries.put key value dictionary.entries, Entries.nodup_map_fst_put dictionary.distinct⟩

/-- Inserts entries one after the other, so that the last value given for a key wins. -/
def insertAll (dictionary : Dictionary κ ν) (entries : List (κ × ν)) : Dictionary κ ν :=
  entries.foldl (fun result entry => result.insert entry.1 entry.2) dictionary

/-- The dictionary that arises when entries are inserted one after the other. -/
def ofList (entries : List (κ × ν)) : Dictionary κ ν :=
  empty.insertAll entries

/-- Whether two dictionaries have the same keys, in whatever order, with the same values. -/
def agrees [DecidableEq ν] (left right : Dictionary κ ν) : Bool :=
  left.size == right.size && left.entries.all fun entry => right.get? entry.1 == some entry.2

@[simp]
theorem get?_empty (key : κ) : (∅ : Dictionary κ ν).get? key = none := rfl

/-- An insertion changes the value of its own key and of no other. -/
theorem get?_insert (dictionary : Dictionary κ ν) (key other : κ) (value : ν) :
    (dictionary.insert key value).get? other =
      if key = other then some value else dictionary.get? other :=
  Entries.lookup_put key other value dictionary.entries

/-- A new key stands last; a present one stays where it is. -/
theorem keys_insert (dictionary : Dictionary κ ν) (key : κ) (value : ν) :
    (dictionary.insert key value).keys =
      if key ∈ dictionary.keys then dictionary.keys else dictionary.keys ++ [key] :=
  Entries.map_fst_put key value dictionary.entries

/-- Entries with new keys are appended. -/
theorem entries_insertAll {dictionary : Dictionary κ ν} {entries : List (κ × ν)}
    (distinct : ((dictionary.entries ++ entries).map Prod.fst).Nodup) :
    (dictionary.insertAll entries).entries = dictionary.entries ++ entries := by
  induction entries generalizing dictionary with
  | nil => rw [List.append_nil]; rfl
  | cons entry rest ih =>
      obtain ⟨key, value⟩ := entry
      have absent : key ∉ dictionary.entries.map Prod.fst := by
        intro present
        rw [List.map_append, List.nodup_append] at distinct
        exact distinct.2.2 key present key (by simp) rfl
      have inserted : (dictionary.insert key value).entries =
          dictionary.entries ++ [(key, value)] :=
        Entries.put_of_notMem absent value
      have appended := ih (by rwa [inserted, List.append_assoc])
      rw [inserted, List.append_assoc] at appended
      exact appended

/-- A dictionary is made of its own entries. -/
theorem ofList_entries (dictionary : Dictionary κ ν) : ofList dictionary.entries = dictionary :=
  ext (entries_insertAll dictionary.distinct)

theorem get?_eq_some_iff (dictionary : Dictionary κ ν) (key : κ) (value : ν) :
    dictionary.get? key = some value ↔ (key, value) ∈ dictionary.entries :=
  Entries.lookup_eq_some_iff dictionary.distinct key value

/-- Of what entries give and what was there before, the entries count. -/
theorem get?_insertAll {entries : List (κ × ν)} (distinct : (entries.map Prod.fst).Nodup)
    (dictionary : Dictionary κ ν) (key : κ) :
    (dictionary.insertAll entries).get? key =
      (Entries.lookup key entries).or (dictionary.get? key) := by
  induction entries generalizing dictionary with
  | nil => rfl
  | cons entry rest ih =>
      obtain ⟨first, value⟩ := entry
      rw [List.map_cons, List.nodup_cons] at distinct
      refine (ih distinct.2 (dictionary.insert first value)).trans ?_
      rw [get?_insert, Entries.lookup]
      by_cases asked : first = key
      · subst asked
        have missing : Entries.lookup first rest = none :=
          (Entries.lookup_eq_none_iff first rest).2 distinct.1
        simp [missing]
      · simp [asked]

/-- Of several values for one key the last one counts. -/
theorem get?_insertAll_reverse (dictionary : Dictionary κ ν) (entries : List (κ × ν)) (key : κ) :
    (dictionary.insertAll entries).get? key =
      (Entries.lookup key entries.reverse).or (dictionary.get? key) := by
  induction entries generalizing dictionary with
  | nil => rfl
  | cons entry rest ih =>
      obtain ⟨first, value⟩ := entry
      refine (ih (dictionary.insert first value)).trans ?_
      rw [get?_insert, List.reverse_cons, Entries.lookup_append, Option.or_assoc]
      congr 1
      by_cases asked : first = key <;> simp [asked, Entries.lookup]

/-- New keys are added in the order in which they first occur. -/
theorem keys_insertAll (dictionary : Dictionary κ ν) (entries : List (κ × ν)) :
    (dictionary.insertAll entries).keys =
      dictionary.keys ++ ((entries.map Prod.fst).filter (· ∉ dictionary.keys)).eraseDups := by
  induction entries generalizing dictionary with
  | nil => simp [insertAll]
  | cons entry rest ih =>
      obtain ⟨key, value⟩ := entry
      have later := ih (dictionary.insert key value)
      rw [keys_insert] at later
      refine later.trans ?_
      by_cases present : key ∈ dictionary.keys
      · simp [present]
      · -- the key is new, and counts no more among those that come later
        have fewer : (rest.map Prod.fst).filter (· ∉ dictionary.keys ++ [key]) =
            ((rest.map Prod.fst).filter (· ∉ dictionary.keys)).filter
              fun other => !other == key := by
          rw [List.filter_filter]
          apply List.filter_congr
          intro other _
          by_cases same : other = key <;> simp [same, present]
        simp only [present, if_false, List.map_cons, List.filter_cons, not_false_eq_true,
          decide_true, if_true, List.eraseDups_cons]
        rw [fewer, List.append_assoc, List.singleton_append]

theorem get?_ofList (entries : List (κ × ν)) (key : κ) :
    (ofList entries).get? key = Entries.lookup key entries.reverse :=
  ((∅ : Dictionary κ ν).get?_insertAll_reverse entries key).trans Option.or_none

theorem keys_ofList (entries : List (κ × ν)) :
    (ofList entries).keys = (entries.map Prod.fst).eraseDups := by
  have new : (entries.map Prod.fst).filter (· ∉ (∅ : Dictionary κ ν).keys) =
      entries.map Prod.fst := by
    rw [List.filter_eq_self]
    simp
  refine ((∅ : Dictionary κ ν).keys_insertAll entries).trans ?_
  rw [new, keys_empty, List.nil_append]

/-- Keys that are given only once are added as they are given. -/
theorem keys_insertAll_of_nodup {entries : List (κ × ν)}
    (distinct : (entries.map Prod.fst).Nodup) (dictionary : Dictionary κ ν) :
    (dictionary.insertAll entries).keys =
      dictionary.keys ++ (entries.map Prod.fst).filter (· ∉ dictionary.keys) := by
  rw [keys_insertAll, Entries.eraseDups_of_nodup (distinct.sublist List.filter_sublist)]

theorem get?_eq_none_iff (dictionary : Dictionary κ ν) (key : κ) :
    dictionary.get? key = none ↔ key ∉ dictionary.keys :=
  Entries.lookup_eq_none_iff key dictionary.entries

theorem contains_iff (dictionary : Dictionary κ ν) (key : κ) :
    dictionary.contains key = true ↔ key ∈ dictionary.keys := by
  have absent := dictionary.get?_eq_none_iff key
  cases found : dictionary.get? key <;> simp_all [contains]

end Dictionary

end Manifest
