/-!
# Entries in order

Fragments by name, parameters by name, the fields of a mapping: all of them are keyed entries whose
**order is seen** by whoever lists them. They are kept as the list of pairs it appears to be, with
two ways of storing under a key that is already there. `put` replaces the value and leaves the entry
where it stands; `redefine` takes the old entry away and writes the new one at the end. Which of the
two happens is visible only in the order: both make `find?` answer the new value for that key, and
neither disturbs any other key. For `put` these are the equations that the rest relies on; what many
redefinitions come to is said of the whole list, where it is needed.
-/

set_option autoImplicit false

namespace SqlTemplate
namespace Entries

variable {κ ν : Type}

def find? [BEq κ] (key : κ) : List (κ × ν) → Option ν
  | [] => none
  | (k, v) :: rest => if k == key then some v else find? key rest

/-- Stores a value, keeping the place of a key that is already there. -/
def put [BEq κ] (key : κ) (value : ν) : List (κ × ν) → List (κ × ν)
  | [] => [(key, value)]
  | (k, v) :: rest => if k == key then (k, value) :: rest else (k, v) :: put key value rest

def erase [BEq κ] (key : κ) (entries : List (κ × ν)) : List (κ × ν) :=
  entries.filter fun e => !(e.1 == key)

/-- Stores a value as the last entry, taking away what the key had before. -/
def redefine [BEq κ] (key : κ) (value : ν) (entries : List (κ × ν)) : List (κ × ν) :=
  erase key entries ++ [(key, value)]

/-- Stores entries one after the other, each keeping the place of its key. -/
def putAll [BEq κ] (new entries : List (κ × ν)) : List (κ × ν) :=
  new.foldl (fun acc e => put e.1 e.2 acc) entries

def keys (entries : List (κ × ν)) : List κ := entries.map Prod.fst

section Lookup

variable [BEq κ] [LawfulBEq κ]

@[simp] theorem find?_put_self (key : κ) (value : ν) (entries : List (κ × ν)) :
    find? key (put key value entries) = some value := by
  induction entries with
  | nil => simp [put, find?]
  | cons e rest ih =>
    obtain ⟨k, v⟩ := e
    by_cases h : (k == key) = true
    · simp [put, find?, h]
    · simp [put, find?, h, ih]

theorem find?_put_of_ne {key other : κ} (h : other ≠ key) (value : ν) (entries : List (κ × ν)) :
    find? other (put key value entries) = find? other entries := by
  induction entries with
  | nil => simp [put, find?, Ne.symm h]
  | cons e rest ih =>
    obtain ⟨k, v⟩ := e
    by_cases hk : k = key
    · subst hk; simp [put, find?, Ne.symm h]
    · simp [put, find?, hk, ih]

/-- A key has a value exactly when it is among the keys. -/
theorem find?_isSome_iff {key : κ} {entries : List (κ × ν)} :
    (find? key entries).isSome = true ↔ key ∈ keys entries := by
  induction entries with
  | nil => simp [find?, keys]
  | cons e rest ih =>
    obtain ⟨k, v⟩ := e
    by_cases hk : k = key
    · simp [find?, keys, hk]
    · simp only [keys] at ih
      simp [find?, keys, hk, Ne.symm hk, ih]

theorem find?_append {key : κ} (xs ys : List (κ × ν)) :
    find? key (xs ++ ys) = (find? key xs).or (find? key ys) := by
  induction xs with
  | nil => simp [find?]
  | cons e rest ih =>
    obtain ⟨k, v⟩ := e
    by_cases hk : k = key <;> simp [find?, hk, ih]

/-- A key that is already there keeps its place. -/
theorem keys_put_of_mem {key : κ} (value : ν) {entries : List (κ × ν)} (h : key ∈ keys entries) :
    keys (put key value entries) = keys entries := by
  induction entries with
  | nil => simp [keys] at h
  | cons e rest ih =>
    obtain ⟨k, v⟩ := e
    by_cases hk : k = key
    · simp [put, keys, hk]
    · have : key ∈ keys rest := by simpa [keys, Ne.symm hk] using h
      have ih := ih this
      simp only [keys] at ih
      simp [put, keys, hk, ih]

/-- A new key goes to the end. -/
theorem put_of_not_mem {key : κ} (value : ν) {entries : List (κ × ν)} (h : key ∉ keys entries) :
    put key value entries = entries ++ [(key, value)] := by
  induction entries with
  | nil => rfl
  | cons e rest ih =>
    obtain ⟨k, v⟩ := e
    simp only [keys, List.map_cons, List.mem_cons, not_or] at h
    simp [put, Ne.symm h.1, ih h.2]

end Lookup

end Entries
end SqlTemplate
