import Mathlib.Data.List.Sort
import OwnershipRegistry.IntSet

/-!
# Ascending sets of integers

Sets are built in ascending order, so a set is determined by its elements.
-/

namespace OwnershipRegistry

namespace IntSet

/-- The elements stand in strictly ascending order. -/
def Ascending (s : IntSet) : Prop := s.Pairwise (· < ·)

theorem ascending_nil : Ascending [] := List.Pairwise.nil

theorem ascending_insert {a : Int} {s : IntSet} (h : Ascending s) : Ascending (insert a s) :=
  pairwise_insert h

theorem ascending_erase {a : Int} {s : IntSet} (h : Ascending s) : Ascending (erase a s) :=
  List.Pairwise.filter _ h

/-- Ascending sets with the same elements are equal. -/
theorem eq_of_mem_iff {s t : IntSet} (hs : Ascending s) (ht : Ascending t)
    (h : ∀ x, x ∈ s ↔ x ∈ t) : s = t :=
  List.Pairwise.eq_of_mem_iff hs ht h

/-- Adding an element of an ascending set changes nothing. -/
theorem insert_of_mem {a : Int} {s : IntSet} (hs : Ascending s) (ha : a ∈ s) : insert a s = s := by
  apply eq_of_mem_iff (ascending_insert hs) hs
  intro x
  rw [mem_insert]
  exact ⟨fun h => h.elim (fun hx => hx ▸ ha) id, Or.inr⟩

/-- Removing what is no element changes nothing. -/
theorem erase_of_not_mem {a : Int} {s : IntSet} (ha : a ∉ s) : erase a s = s := by
  apply List.filter_eq_self.mpr
  intro x hx
  have hne : x ≠ a := fun h => ha (h ▸ hx)
  simpa using hne

theorem mem_foldl_insert (xs : List Int) {s : IntSet} {x : Int} :
    x ∈ xs.foldl (fun s a => insert a s) s ↔ x ∈ s ∨ x ∈ xs := by
  induction xs generalizing s with
  | nil => simp
  | cons y rest ih =>
      rw [List.foldl_cons, ih, mem_insert, List.mem_cons]
      constructor
      · rintro ((h | h) | h)
        · exact Or.inr (Or.inl h)
        · exact Or.inl h
        · exact Or.inr (Or.inr h)
      · rintro (h | h | h)
        · exact Or.inl (Or.inr h)
        · exact Or.inl (Or.inl h)
        · exact Or.inr h

theorem ascending_foldl_insert (xs : List Int) {s : IntSet} (h : Ascending s) :
    Ascending (xs.foldl (fun s a => insert a s) s) := by
  induction xs generalizing s with
  | nil => exact h
  | cons x rest ih => exact ih (ascending_insert h)

/-- The set of a list stands in ascending order. -/
theorem ascending_ofList (xs : List Int) : Ascending (ofList xs) := ascending_foldl_insert xs ascending_nil

/-- The set of a list has the elements of the list. -/
theorem mem_ofList {xs : List Int} {x : Int} : x ∈ ofList xs ↔ x ∈ xs := by
  simpa [ofList] using mem_foldl_insert xs (s := []) (x := x)

/-- Lists with the same elements have the same set. -/
theorem ofList_eq_of_mem_iff {xs ys : List Int} (h : ∀ x, x ∈ xs ↔ x ∈ ys) : ofList xs = ofList ys := by
  apply eq_of_mem_iff (ascending_ofList xs) (ascending_ofList ys)
  intro x
  rw [mem_ofList, mem_ofList, h]

end IntSet

end OwnershipRegistry
