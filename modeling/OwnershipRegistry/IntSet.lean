/-! # Sets of integers

Sets of callers and of selectors. A set is an ascending list, so equal sets are equal lists. -/

namespace OwnershipRegistry

/-- A set of integers: ascending and without repetition when built by `insert` and `erase`. -/
abbrev IntSet := List Int

namespace IntSet

/-- Add an element. -/
def insert (a : Int) : IntSet → IntSet
  | [] => [a]
  | b :: rest =>
    if a < b then a :: b :: rest
    else if a = b then b :: rest
    else b :: insert a rest

/-- Remove an element. -/
def erase (a : Int) (s : IntSet) : IntSet := s.filter (· ≠ a)

/-- The set of the elements of a list. -/
def ofList (xs : List Int) : IntSet := xs.foldl (fun s a => insert a s) []

/-- The elements of the first set that are not in the second. -/
def minus (s other : IntSet) : IntSet := s.filter fun a => !other.contains a

theorem mem_insert {x a : Int} {s : IntSet} : x ∈ insert a s ↔ x = a ∨ x ∈ s := by
  induction s with
  | nil => simp [insert]
  | cons b rest ih =>
    by_cases h1 : a < b
    · simp [insert, h1]
    · by_cases h2 : a = b
      · subst h2; simp [insert]
      · simp only [insert, h1, h2, if_false, List.mem_cons, ih]
        exact or_left_comm

theorem mem_erase {x a : Int} {s : IntSet} : x ∈ erase a s ↔ x ∈ s ∧ x ≠ a := by
  simp [erase]

theorem mem_minus {x : Int} {s other : IntSet} : x ∈ minus s other ↔ x ∈ s ∧ x ∉ other := by
  simp [minus]

/-- Adding keeps a set ascending. -/
theorem pairwise_insert {a : Int} {s : IntSet} (h : s.Pairwise (· < ·)) :
    (insert a s).Pairwise (· < ·) := by
  induction s with
  | nil => simp [insert]
  | cons b rest ih =>
    obtain ⟨hb, hr⟩ := List.pairwise_cons.1 h
    by_cases h1 : a < b
    · simp only [insert, h1, if_true]
      refine List.pairwise_cons.2 ⟨fun x hx => ?_, h⟩
      rcases List.mem_cons.1 hx with rfl | hx
      · exact h1
      · have := hb x hx; omega
    · by_cases h2 : a = b
      · subst h2; simpa [insert] using h
      · simp only [insert, h1, h2, if_false]
        refine List.pairwise_cons.2 ⟨fun x hx => ?_, ih hr⟩
        rcases mem_insert.1 hx with rfl | hx
        · omega
        · exact hb x hx

end IntSet

end OwnershipRegistry
