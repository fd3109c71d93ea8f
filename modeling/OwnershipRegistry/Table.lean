/-! # Keyed tables

Entries stay in the order in which their keys were first put. Putting a key again changes its
entry where it stands. -/

namespace OwnershipRegistry

/-- A table of entries with distinct keys, as long as entries are added by `put`. -/
structure Table (κ α : Type) where
  entries : List (κ × α)

namespace Table

variable {κ α β : Type} [DecidableEq κ]

instance : Inhabited (Table κ α) := ⟨⟨[]⟩⟩

/-- The table without entries. -/
def empty : Table κ α := ⟨[]⟩

/-- The keys, in order. -/
def keys (t : Table κ α) : List κ := t.entries.map (·.1)

/-- The values, in order. -/
def values (t : Table κ α) : List α := t.entries.map (·.2)

/-- The number of entries. -/
def size (t : Table κ α) : Nat := t.entries.length

/-- Look a key up in a list of entries. -/
def find (key : κ) : List (κ × α) → Option α
  | [] => none
  | e :: rest => if e.1 = key then some e.2 else find key rest

/-- The value under a key. -/
def get? (t : Table κ α) (key : κ) : Option α := find key t.entries

/-- Whether a key has an entry. -/
def contains (t : Table κ α) (key : κ) : Bool := (t.get? key).isSome

/-- Put a value into a list of entries. -/
def store (key : κ) (value : α) : List (κ × α) → List (κ × α)
  | [] => [(key, value)]
  | e :: rest => if e.1 = key then (key, value) :: rest else e :: store key value rest

/-- Put a value under a key. -/
def put (t : Table κ α) (key : κ) (value : α) : Table κ α := ⟨store key value t.entries⟩

/-- Remove a key. -/
def erase (t : Table κ α) (key : κ) : Table κ α := ⟨t.entries.filter fun e => e.1 ≠ key⟩

/-- The table of the given entries, later ones prevailing. -/
def ofEntries (entries : List (κ × α)) : Table κ α :=
  entries.foldl (fun t e => t.put e.1 e.2) empty

/-- Put all entries of a list, in order. -/
def putAll (t : Table κ α) (entries : List (κ × α)) : Table κ α :=
  entries.foldl (fun t e => t.put e.1 e.2) t

@[simp] theorem get?_empty (key : κ) : (empty : Table κ α).get? key = none := rfl

theorem find_store_self (key : κ) (value : α) (entries : List (κ × α)) :
    find key (store key value entries) = some value := by
  induction entries with
  | nil => simp [store, find]
  | cons e rest ih => by_cases h : e.1 = key <;> simp [store, find, h, ih]

theorem find_store_of_ne {key other : κ} (value : α) (entries : List (κ × α)) (h : other ≠ key) :
    find other (store key value entries) = find other entries := by
  induction entries with
  | nil => simp [store, find, Ne.symm h]
  | cons e rest ih =>
    by_cases he : e.1 = key
    · have hk : ¬ e.1 = other := fun hc => h (hc.symm.trans he)
      simp [store, find, he, Ne.symm h]
    · by_cases ho : e.1 = other
      · subst ho; simp [store, find, he]
      · simp [store, find, he, ho, ih]

@[simp] theorem get?_put_self (t : Table κ α) (key : κ) (value : α) :
    (t.put key value).get? key = some value :=
  find_store_self key value t.entries

theorem get?_put_of_ne (t : Table κ α) {key other : κ} (value : α) (h : other ≠ key) :
    (t.put key value).get? other = t.get? other :=
  find_store_of_ne value t.entries h

theorem get?_put (t : Table κ α) (key other : κ) (value : α) :
    (t.put key value).get? other = if other = key then some value else t.get? other := by
  by_cases h : other = key
  · subst h; simp
  · simp [h, get?_put_of_ne t value h]

end Table

end OwnershipRegistry
