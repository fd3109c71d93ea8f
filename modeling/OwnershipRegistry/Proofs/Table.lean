import Mathlib.Algebra.Ring.Nat
import Mathlib.Data.List.Nodup
import OwnershipRegistry.Table

/-!
# Tables with distinct keys and their indexes

A table whose keys are distinct is determined by its look-ups. A second table
can index the first one by a label of its values; it then lists the labels in
the order of the records, so that it can be rebuilt from the records alone.
-/

namespace OwnershipRegistry

namespace Table

variable {κ α : Type} [DecidableEq κ]

/-- What a look-up finds is an entry of the list. -/
theorem mem_of_find {key : κ} {value : α} {entries : List (κ × α)}
    (h : find key entries = some value) : (key, value) ∈ entries := by
  induction entries with
  | nil => simp [find] at h
  | cons e rest ih =>
      by_cases he : e.1 = key
      · have hv : e.2 = value := by simpa [find, he] using h
        rw [← he, ← hv]
        exact List.mem_cons_self
      · have hr : find key rest = some value := by simpa [find, he] using h
        exact List.mem_cons_of_mem e (ih hr)

/-- Distinct keys make every entry of a list the one that is found. -/
theorem find_of_mem {key : κ} {value : α} {entries : List (κ × α)}
    (distinct : (entries.map (·.1)).Nodup) (h : (key, value) ∈ entries) :
    find key entries = some value := by
  induction entries with
  | nil => cases h
  | cons e rest ih =>
      obtain ⟨hne, hrest⟩ := List.nodup_cons.mp distinct
      rcases List.mem_cons.mp h with rfl | hr
      · simp [find]
      · have hk : e.1 ≠ key := by
          rintro rfl
          exact hne (List.mem_map_of_mem (f := (·.1)) hr)
        simp [find, hk, ih hrest hr]

/-- A key finds nothing exactly when it is no key. -/
theorem find_eq_none_iff {key : κ} {entries : List (κ × α)} :
    find key entries = none ↔ key ∉ entries.map (·.1) := by
  induction entries with
  | nil => simp [find]
  | cons e rest ih =>
      by_cases he : e.1 = key
      · simp [find, he]
      · have hk : key ≠ e.1 := fun h => he h.symm
        simp only [find, he, if_false, ih, List.map_cons, List.mem_cons, not_or, hk,
          not_false_eq_true, true_and]

/-- Where the values of all entries are changed alike, a key finds the changed value. -/
theorem find_map {β : Type} (f : α → β) (key : κ) (entries : List (κ × α)) :
    find key (entries.map fun e => (e.1, f e.2)) = (find key entries).map f := by
  induction entries with
  | nil => rfl
  | cons e rest ih =>
      by_cases he : e.1 = key
      · simp [find, he]
      · simpa [find, he] using ih

theorem mem_of_get? {t : Table κ α} {key : κ} {value : α} (h : t.get? key = some value) :
    (key, value) ∈ t.entries :=
  mem_of_find h

theorem get?_eq_some_iff {t : Table κ α} (distinct : t.keys.Nodup) {key : κ} {value : α} :
    t.get? key = some value ↔ (key, value) ∈ t.entries :=
  ⟨mem_of_find, find_of_mem distinct⟩

theorem get?_eq_none_iff {t : Table κ α} {key : κ} : t.get? key = none ↔ key ∉ t.keys :=
  find_eq_none_iff

theorem contains_eq_false_iff {t : Table κ α} {key : κ} :
    t.contains key = false ↔ t.get? key = none := by
  simp [contains]

/-- A value is one of the table's exactly when some key finds it. -/
theorem mem_values_iff {t : Table κ α} (distinct : t.keys.Nodup) {value : α} :
    value ∈ t.values ↔ ∃ key, t.get? key = some value := by
  constructor
  · intro h
    obtain ⟨e, he, rfl⟩ := List.mem_map.mp h
    exact ⟨e.1, (get?_eq_some_iff distinct).mpr he⟩
  · rintro ⟨key, h⟩
    exact List.mem_map.mpr ⟨(key, value), mem_of_get? h, rfl⟩

/-- Putting a new key appends its entry. -/
theorem store_of_find_none {key : κ} (value : α) {entries : List (κ × α)}
    (h : find key entries = none) : store key value entries = entries ++ [(key, value)] := by
  induction entries with
  | nil => rfl
  | cons e rest ih =>
      by_cases he : e.1 = key
      · simp [find, he] at h
      · have hr : find key rest = none := by simpa [find, he] using h
        simp [store, he, ih hr]

theorem entries_put_of_none {t : Table κ α} {key : κ} (value : α) (h : t.get? key = none) :
    (t.put key value).entries = t.entries ++ [(key, value)] :=
  store_of_find_none value h

/-- Putting what a key finds already changes nothing. -/
theorem store_of_find {key : κ} {value : α} {entries : List (κ × α)}
    (h : find key entries = some value) : store key value entries = entries := by
  induction entries with
  | nil => simp [find] at h
  | cons e rest ih =>
      obtain ⟨k, v⟩ := e
      by_cases he : k = key
      · have hv : v = value := by simpa [find, he] using h
        simp [store, he, hv]
      · have hr : find key rest = some value := by simpa [find, he] using h
        simp [store, he, ih hr]

theorem put_of_get? {t : Table κ α} {key : κ} {value : α} (h : t.get? key = some value) :
    t.put key value = t :=
  congrArg Table.mk (store_of_find h)

/-- Putting a key that is there already keeps every function of the entries that does not tell
the two values apart. -/
theorem map_store_of_find {β : Type} (f : κ × α → β) {key : κ} {old : α} (value : α)
    {entries : List (κ × α)} (h : find key entries = some old)
    (same : f (key, value) = f (key, old)) : (store key value entries).map f = entries.map f := by
  induction entries with
  | nil => simp [find] at h
  | cons e rest ih =>
      obtain ⟨k, v⟩ := e
      by_cases he : k = key
      · have hv : v = old := by simpa [find, he] using h
        simp [store, he, hv, same]
      · have hr : find key rest = some old := by simpa [find, he] using h
        simp [store, he, ih hr]

theorem map_entries_put {β : Type} (f : κ × α → β) {t : Table κ α} {key : κ} {old : α} (value : α)
    (h : t.get? key = some old) (same : f (key, value) = f (key, old)) :
    (t.put key value).entries.map f = t.entries.map f :=
  map_store_of_find f value h same

/-- After a put, a key finds the new value exactly if it is the key of the put, and else what it
found before. -/
theorem get?_put_eq_some_iff {t : Table κ α} {key other : κ} {value found : α} :
    (t.put key value).get? other = some found ↔
      (other = key ∧ found = value) ∨ (other ≠ key ∧ t.get? other = some found) := by
  rw [get?_put]
  by_cases h : other = key
  · simp [h, eq_comm]
  · simp [h]

/-- A new key hides nothing. -/
theorem get?_put_of_free {t : Table κ α} {key other : κ} {found : α} (value : α)
    (free : t.get? key = none) (h : t.get? other = some found) :
    (t.put key value).get? other = some found := by
  have hne : other ≠ key := by
    rintro rfl
    rw [free] at h
    cases h
  rw [get?_put_of_ne t value hne, h]

/-- Putting and erasing keep the keys distinct. -/
theorem nodup_keys_put {t : Table κ α} (distinct : t.keys.Nodup) (key : κ) (value : α) :
    (t.put key value).keys.Nodup := by
  cases hfound : t.get? key with
  | some old =>
      rw [keys, map_entries_put (·.1) value hfound rfl]
      exact distinct
  | none =>
      have hnew : key ∉ t.keys := get?_eq_none_iff.mp hfound
      have hkeys : (t.put key value).keys = t.keys.concat key := by
        simp [keys, entries_put_of_none value hfound]
      rw [hkeys]
      exact List.Nodup.concat hnew distinct

theorem nodup_keys_erase {t : Table κ α} (distinct : t.keys.Nodup) (key : κ) : (t.erase key).keys.Nodup := by
  have hfewer : (t.erase key).entries.Sublist t.entries := List.filter_sublist
  have hkeys : (t.erase key).keys.Sublist t.keys := hfewer.map _
  exact hkeys.nodup distinct

/-- An erased key finds nothing, and other keys find what they found before. -/
theorem get?_erase (t : Table κ α) (key other : κ) :
    (t.erase key).get? other = if other = key then none else t.get? other := by
  unfold erase get?
  induction t.entries with
  | nil => simp [find]
  | cons e rest ih =>
      by_cases hkey : e.1 = key
      · by_cases hother : other = key
        · simpa [hkey, hother] using ih
        · have hne : ¬ key = other := fun h => hother h.symm
          simpa [find, hkey, hother, hne] using ih
      · by_cases hother : e.1 = other
        · have hne : ¬ other = key := hother ▸ hkey
          simp [find, hother, hne]
        · simpa [find, hkey, hother] using ih

/-- The value of the last entry of a key. -/
def last? (key : κ) (entries : List (κ × α)) : Option α :=
  ((entries.filter fun e => e.1 = key).getLast?).map (·.2)

theorem last?_append (key : κ) (entries more : List (κ × α)) :
    last? key (entries ++ more) = (last? key more).or (last? key entries) := by
  unfold last?
  rw [List.filter_append, List.getLast?_append]
  cases (more.filter fun e => e.1 = key).getLast? <;> simp

theorem last?_cons (key : κ) (e : κ × α) (rest : List (κ × α)) :
    last? key (e :: rest) = (last? key rest).or (if e.1 = key then some e.2 else none) := by
  have hfirst : last? key [e] = if e.1 = key then some e.2 else none := by
    by_cases he : e.1 = key <;> simp [last?, he]
  rw [← hfirst]
  exact last?_append key [e] rest

theorem last?_eq_none_iff {key : κ} {entries : List (κ × α)} :
    last? key entries = none ↔ key ∉ entries.map (·.1) := by
  rw [last?, Option.map_eq_none_iff, List.getLast?_eq_none_iff, List.filter_eq_nil_iff, List.mem_map]
  constructor
  · rintro hother ⟨e, he, hkey⟩
    exact hother e he (decide_eq_true hkey)
  · intro hnone e he hkey
    exact hnone ⟨e, he, of_decide_eq_true hkey⟩

/-- Of the entries that are put, a key finds its last one, and else what it found before. -/
theorem get?_putAll_eq_last? (t : Table κ α) (entries : List (κ × α)) (key : κ) :
    (t.putAll entries).get? key = (last? key entries).or (t.get? key) := by
  induction entries generalizing t with
  | nil => rfl
  | cons e rest ih =>
      have hlater : ((t.put e.1 e.2).putAll rest).get? key = _ := ih (t.put e.1 e.2)
      rw [putAll, List.foldl_cons]
      refine hlater.trans ?_
      rw [get?_put, last?_cons]
      by_cases hkey : e.1 = key
      · cases last? key rest <;> simp [hkey]
      · have hne : ¬ key = e.1 := fun h => hkey h.symm
        simp [hkey, hne]

/-- Where keys are distinct, the last entry of a key is its first. -/
theorem last?_eq_find {entries : List (κ × α)} (distinct : (entries.map (·.1)).Nodup) (key : κ) :
    last? key entries = find key entries := by
  induction entries with
  | nil => rfl
  | cons e rest ih =>
      obtain ⟨hnew, hrest⟩ := List.nodup_cons.mp distinct
      rw [last?_cons, ih hrest]
      by_cases hkey : e.1 = key
      · have hnone : find key rest = none := find_eq_none_iff.mpr (hkey ▸ hnew)
        simp [find, hkey, hnone]
      · simp [find, hkey]

theorem get?_putAll {t : Table κ α} {entries : List (κ × α)} (distinct : (entries.map (·.1)).Nodup)
    (key : κ) : (t.putAll entries).get? key = (find key entries).or (t.get? key) := by
  rw [get?_putAll_eq_last?, last?_eq_find distinct]

theorem nodup_keys_putAll {t : Table κ α} (distinct : t.keys.Nodup) (entries : List (κ × α)) :
    (t.putAll entries).keys.Nodup := by
  induction entries generalizing t with
  | nil => exact distinct
  | cons e rest ih => exact ih (nodup_keys_put distinct e.1 e.2)

/-- What is true of all entries and of the one that is put is true of all entries afterwards. -/
theorem forall_store {p : κ × α → Prop} {key : κ} {value : α} {entries : List (κ × α)} (new : p (key, value))
    (h : ∀ e ∈ entries, p e) : ∀ e ∈ store key value entries, p e := by
  induction entries with
  | nil => exact List.forall_mem_singleton.mpr new
  | cons e rest ih =>
      obtain ⟨hfirst, hrest⟩ := List.forall_mem_cons.mp h
      rw [store]
      by_cases hkey : e.1 = key
      · rw [if_pos hkey]
        exact List.forall_mem_cons.mpr ⟨new, hrest⟩
      · rw [if_neg hkey]
        exact List.forall_mem_cons.mpr ⟨hfirst, ih hrest⟩

theorem forall_putAll {p : κ × α → Prop} {t : Table κ α} {entries : List (κ × α)} (h : ∀ e ∈ t.entries, p e)
    (new : ∀ e ∈ entries, p e) : ∀ e ∈ (t.putAll entries).entries, p e := by
  induction entries generalizing t with
  | nil => exact h
  | cons e rest ih =>
      obtain ⟨hfirst, hrest⟩ := List.forall_mem_cons.mp new
      exact ih (forall_store hfirst h) hrest

/-- Change the value under a key, if there is one. -/
def modify (t : Table κ α) (key : κ) (f : α → α) : Table κ α :=
  ⟨t.entries.map fun e => if e.1 = key then (e.1, f e.2) else e⟩

theorem modify_id (t : Table κ α) (key : κ) : t.modify key (fun value => value) = t := by
  apply congrArg Table.mk
  exact List.map_id'' (fun e => ite_self e) t.entries

theorem store_eq_map {key : κ} {old : α} (f : α → α) {entries : List (κ × α)}
    (distinct : (entries.map (·.1)).Nodup) (h : find key entries = some old) :
    store key (f old) entries = entries.map fun e => if e.1 = key then (e.1, f e.2) else e := by
  induction entries with
  | nil => cases h
  | cons e rest ih =>
      obtain ⟨hnew, hrest⟩ := List.nodup_cons.mp distinct
      by_cases hkey : e.1 = key
      · have hvalue : e.2 = old := by simpa [find, hkey] using h
        have hothers : (rest.map fun e => if e.1 = key then (e.1, f e.2) else e) = rest := by
          rw [List.map_congr_left (g := id), List.map_id]
          intro other hmem
          apply if_neg
          intro hsame
          have hagain : other.1 = e.1 := hsame.trans hkey.symm
          exact hnew (List.mem_map.mpr ⟨other, hmem, hagain⟩)
        simp only [store, List.map_cons, hkey, if_true, hvalue, hothers]
      · have hlater : find key rest = some old := by simpa [find, hkey] using h
        simp only [store, List.map_cons, hkey, if_false, ih hrest hlater]

/-- Putting what a function makes of the value under a key changes that value. -/
theorem put_eq_modify {t : Table κ α} (distinct : t.keys.Nodup) {key : κ} {old : α}
    (found : t.get? key = some old) (f : α → α) : t.put key (f old) = t.modify key f :=
  congrArg Table.mk (store_eq_map f distinct found)

theorem get?_modify (t : Table κ α) (key other : κ) (f : α → α) :
    (t.modify key f).get? other = (t.get? other).map fun value => if other = key then f value else value := by
  unfold modify get?
  induction t.entries with
  | nil => rfl
  | cons e rest ih =>
      by_cases hother : e.1 = other
      · by_cases hkey : e.1 = key
        · simp [find, ← hother, hkey]
        · simp [find, ← hother, hkey]
      · by_cases hkey : e.1 = key
        · have hne : ¬ key = other := hkey ▸ hother
          simpa [find, hkey, hne] using ih
        · simpa [find, hkey, hother] using ih

/-- Changes of two values may be made in either order, and also two changes of one value that may. -/
theorem modify_comm {t : Table κ α} {key other : κ} {f g : α → α}
    (same : key = other → ∀ e ∈ t.entries, f (g e.2) = g (f e.2)) :
    (t.modify other g).modify key f = (t.modify key f).modify other g := by
  apply congrArg Table.mk
  simp only [modify, List.map_map]
  apply List.map_congr_left
  intro e he
  by_cases hkey : e.1 = key
  · by_cases hother : e.1 = other
    · have hcomm := same (hkey.symm.trans hother) e he
      simp [hkey, hother.symm.trans hkey, hcomm]
    · have hne : ¬ key = other := hkey ▸ hother
      simp [hkey, hne]
  · by_cases hother : e.1 = other
    · have hne : ¬ other = key := hother ▸ hkey
      simp [hother, hne]
    · simp [hkey, hother]

/-- What the values of a table weigh together. -/
def total (weight : α → Nat) (t : Table κ α) : Nat := (t.values.map weight).sum

theorem sum_store (weight : α → Nat) (key : κ) (value : α) (entries : List (κ × α)) :
    ((store key value entries).map fun e => weight e.2).sum + ((find key entries).map weight).getD 0 =
      (entries.map fun e => weight e.2).sum + weight value := by
  induction entries with
  | nil => simp [store, find]
  | cons e rest ih =>
      by_cases hkey : e.1 = key
      · simp only [store, find, hkey, if_true, List.map_cons, List.sum_cons, Option.map_some,
          Option.getD_some]
        omega
      · simp only [store, find, hkey, if_false, List.map_cons, List.sum_cons]
        omega

/-- A put weighs what its value weighs more than the one that it replaces. -/
theorem total_put (weight : α → Nat) (t : Table κ α) (key : κ) (value : α) :
    (t.put key value).total weight + ((t.get? key).map weight).getD 0 = t.total weight + weight value := by
  have hsum := sum_store weight key value t.entries
  simpa [total, values, put, get?, Function.comp_def] using hsum

/-- Entries with new and distinct keys are appended as they are. -/
theorem foldl_put_entries (entries : List (κ × α)) (t : Table κ α)
    (distinct : (t.keys ++ entries.map (·.1)).Nodup) :
    (entries.foldl (fun t e => t.put e.1 e.2) t).entries = t.entries ++ entries := by
  induction entries generalizing t with
  | nil => simp
  | cons e rest ih =>
      have hsplit := List.nodup_append.mp distinct
      have hnew : t.get? e.1 = none :=
        get?_eq_none_iff.mpr fun hk => hsplit.2.2 e.1 hk e.1 (by simp) rfl
      have hentries := entries_put_of_none e.2 hnew
      have hkeys : (t.put e.1 e.2).keys = t.keys ++ [e.1] := by
        simp [keys, hentries]
      have hrest := ih (t.put e.1 e.2) (by simpa [hkeys] using distinct)
      rw [List.foldl_cons, hrest, hentries]
      simp

/-- A table of entries with distinct keys lists exactly these entries. -/
theorem ofEntries_entries {entries : List (κ × α)} (distinct : (entries.map (·.1)).Nodup) :
    (ofEntries entries).entries = entries := by
  have h := foldl_put_entries entries (empty : Table κ α) (by simpa [keys, empty] using distinct)
  simpa [ofEntries, empty] using h

end Table

/-- A table of records, each under its own key, and an index that lists the label of every record
in the order of the records. No two records share a label. -/
structure Indexed {α : Type} (label : α → String) (own : α → Int) (records : Table Int α)
    (index : Table String Int) : Prop where
  keyed : ∀ e ∈ records.entries, own e.2 = e.1
  keys : records.keys.Nodup
  labels : (records.values.map label).Nodup
  listed : index.entries = records.entries.map fun e => (label e.2, e.1)

namespace Indexed

variable {α : Type} {label : α → String} {own : α → Int} {records : Table Int α}
  {index : Table String Int}

theorem empty (label : α → String) (own : α → Int) : Indexed label own .empty .empty where
  keyed := by simp [Table.empty]
  keys := by simp [Table.empty, Table.keys]
  labels := by simp [Table.empty, Table.values]
  listed := rfl

/-- The labels of the index are those of the records, in their order. -/
theorem index_keys (h : Indexed label own records index) :
    index.keys = records.values.map label := by
  simp [Table.keys, Table.values, h.listed, Function.comp_def]

/-- A record stands under its own key. -/
theorem own_eq (h : Indexed label own records index) {key : Int} {r : α}
    (hr : records.get? key = some r) : own r = key :=
  h.keyed (key, r) (Table.mem_of_get? hr)

/-- The index leads a label to exactly the key of the record with that label. -/
theorem index_get?_iff (h : Indexed label own records index) {l : String} {key : Int} :
    index.get? l = some key ↔ ∃ r, records.get? key = some r ∧ label r = l := by
  have hdistinct : index.keys.Nodup := h.index_keys ▸ h.labels
  rw [Table.get?_eq_some_iff hdistinct, h.listed, List.mem_map]
  constructor
  · rintro ⟨⟨k, r⟩, he, heq⟩
    obtain ⟨hl, hk⟩ := Prod.mk.inj heq
    subst hk
    exact ⟨r, (Table.get?_eq_some_iff h.keys).mpr he, hl⟩
  · rintro ⟨r, hr, rfl⟩
    exact ⟨(key, r), Table.mem_of_get? hr, rfl⟩

/-- Through the index, a label finds exactly the record with that label, which is under its own
key. -/
theorem bind_get?_eq_some_iff (h : Indexed label own records index) {l : String} {r : α} :
    (index.get? l).bind records.get? = some r ↔ records.get? (own r) = some r ∧ label r = l := by
  rw [Option.bind_eq_some_iff]
  constructor
  · rintro ⟨key, hkey, hr⟩
    obtain ⟨s, hs, hl⟩ := h.index_get?_iff.mp hkey
    obtain rfl : r = s := Option.some.inj (hr.symm.trans hs)
    exact ⟨h.own_eq hr ▸ hr, hl⟩
  · rintro ⟨hr, hl⟩
    exact ⟨own r, h.index_get?_iff.mpr ⟨r, hr, hl⟩, hr⟩

/-- Searching the records for a label finds what the index finds. -/
theorem find?_values (h : Indexed label own records index) (l : String) :
    records.values.find? (fun r => label r = l) = (index.get? l).bind records.get? := by
  cases hfind : records.values.find? (fun r => label r = l) with
  | some r =>
      have hlabel : label r = l := by simpa using List.find?_some hfind
      obtain ⟨key, hr⟩ := (Table.mem_values_iff h.keys).mp (List.mem_of_find?_eq_some hfind)
      have hkey := h.own_eq hr
      exact (h.bind_get?_eq_some_iff.mpr ⟨hkey ▸ hr, hlabel⟩).symm
  | none =>
      have hother := List.find?_eq_none.mp hfind
      symm
      apply Option.eq_none_iff_forall_ne_some.mpr
      intro r hr
      obtain ⟨hr, hlabel⟩ := h.bind_get?_eq_some_iff.mp hr
      have hmem := (Table.mem_values_iff h.keys).mpr ⟨own r, hr⟩
      exact absurd (by simpa using hlabel) (hother r hmem)

/-- No two keys hold records with the same label. -/
theorem key_unique (h : Indexed label own records index) {key other : Int} {r s : α}
    (hr : records.get? key = some r) (hs : records.get? other = some s)
    (same : label r = label s) : key = other := by
  have hkey := h.index_get?_iff.mpr ⟨r, hr, same⟩
  have hother := h.index_get?_iff.mpr ⟨s, hs, rfl⟩
  rw [hkey] at hother
  exact Option.some.inj hother

/-- What is found under a key are the records that stand there under their own. -/
theorem get?_iff (h : Indexed label own records index) {key : Int} {r : α} :
    records.get? key = some r ↔ records.get? (own r) = some r ∧ own r = key := by
  constructor
  · intro hr
    obtain rfl := h.own_eq hr
    exact ⟨hr, rfl⟩
  · rintro ⟨hr, rfl⟩
    exact hr

/-- A key and a label are free in an indexed table when no record has either of them. -/
theorem unbound_iff (h : Indexed label own records index) {key : Int} {l : String} :
    (records.get? key = none ∧ index.get? l = none) ↔
      ∀ other r, records.get? other = some r → other ≠ key ∧ label r ≠ l := by
  constructor
  · rintro ⟨hkey, hlabel⟩ other r hr
    constructor
    · rintro rfl
      rw [hkey] at hr
      cases hr
    · rintro rfl
      have hbound := h.index_get?_iff.mpr ⟨r, hr, rfl⟩
      rw [hlabel] at hbound
      cases hbound
  · intro hother
    constructor
    · apply Option.eq_none_iff_forall_ne_some.mpr
      intro r hr
      exact (hother key r hr).1 rfl
    · apply Option.eq_none_iff_forall_ne_some.mpr
      intro other hindex
      obtain ⟨r, hr, hsame⟩ := h.index_get?_iff.mp hindex
      exact (hother other r hr).2 hsame

/-- The key and the label of a record are free exactly when all records have other ones. -/
theorem free_iff (h : Indexed label own records index) {r : α} :
    (records.get? (own r) = none ∧ index.get? (label r) = none) ↔
      ∀ s, records.get? (own s) = some s → own s ≠ own r ∧ label s ≠ label r := by
  rw [h.unbound_iff]
  constructor
  · exact fun hother s hs => hother (own s) s hs
  · intro hother key s hs
    obtain rfl := h.own_eq hs
    exact hother s hs

/-- A new record under a free key and with a free label is indexed by adding its label. -/
theorem add (h : Indexed label own records index) {r : α}
    (freeKey : records.get? (own r) = none) (freeLabel : index.get? (label r) = none) :
    Indexed label own (records.put (own r) r) (index.put (label r) (own r)) := by
  have hrecords := Table.entries_put_of_none r freeKey
  have hindex := Table.entries_put_of_none (own r) freeLabel
  have hkey : own r ∉ records.keys := Table.get?_eq_none_iff.mp freeKey
  have hlabel : label r ∉ records.values.map label :=
    h.index_keys ▸ Table.get?_eq_none_iff.mp freeLabel
  constructor
  · intro e he
    rw [hrecords] at he
    rcases List.mem_append.mp he with he | he
    · exact h.keyed e he
    · rw [List.mem_singleton.mp he]
  · simpa [Table.keys, hrecords, List.nodup_append] using
      ⟨h.keys, fun a b hab hk => hkey (hk ▸ List.mem_map_of_mem (f := (·.1)) hab)⟩
  · have hnodup := List.Nodup.concat hlabel h.labels
    simpa [Table.values, hrecords] using hnodup
  · simp [hindex, hrecords, h.listed]

/-- Changing a record without changing its key and its label leaves the index as it is. -/
theorem replace (h : Indexed label own records index) {key : Int} {old r : α}
    (hold : records.get? key = some old) (hown : own r = own old) (hlabel : label r = label old) :
    Indexed label own (records.put key r) index := by
  constructor
  · intro e he
    have hsame := Table.map_entries_put (fun e => (own e.2, e.1)) r hold (by simp [hown])
    have hmem : (own e.2, e.1) ∈ records.entries.map fun e => (own e.2, e.1) :=
      hsame ▸ List.mem_map_of_mem (f := fun e => (own e.2, e.1)) he
    obtain ⟨e', he', heq⟩ := List.mem_map.mp hmem
    obtain ⟨h₁, h₂⟩ := Prod.mk.inj heq
    rw [← h₁, ← h₂]
    exact h.keyed e' he'
  · rw [Table.keys, Table.map_entries_put (·.1) r hold rfl]
    exact h.keys
  · have hlabels : (records.put key r).values.map label = records.values.map label := by
      simpa [Table.values, Function.comp_def] using
        Table.map_entries_put (fun e => label e.2) r hold hlabel
    rw [hlabels]
    exact h.labels
  · rw [h.listed, Table.map_entries_put (fun e => (label e.2, e.1)) r hold (by simp [hlabel])]

/-- The index is the one that is rebuilt from the records. -/
theorem rebuild (h : Indexed label own records index) :
    Table.ofEntries (records.entries.map fun e => (label e.2, e.1)) = index := by
  have hdistinct : index.keys.Nodup := h.index_keys ▸ h.labels
  have hentries := Table.ofEntries_entries hdistinct
  rw [← h.listed]
  cases index with
  | mk entries => exact congrArg Table.mk hentries

end Indexed

end OwnershipRegistry
