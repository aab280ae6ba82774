import MeshSkin.Incidence

/-!
# Looking up by halving

In a strictly increasing list a lookup by halving finds exactly the members, so keeping
what is found is the same as keeping the members (`keepFound_eq_filter`).
-/

namespace MeshSkin.Incidence

theorem getElem_lt_of_lt {row : Array Nat} (ascends : row.toList.Pairwise (· < ·)) {i j : Nat}
    (bound : j < row.size) (less : i < j) : row[i] < row[j] := by
  have before := List.pairwise_iff_getElem.1 ascends i j
    (by simpa using Nat.lt_trans less bound) (by simpa using bound) less
  simpa using before

/-- Halving between two places finds what stands between them. -/
theorem binSearchAux_eq_true_iff (row : Array Nat) (ascends : row.toList.Pairwise (· < ·))
    (wanted : Nat) (lo : Fin (row.size + 1)) (hi : Fin row.size) (ordered : lo.1 ≤ hi.1) :
    Array.binSearchAux (· < ·) Option.isSome row wanted lo hi ordered = true ↔
      ∃ place, lo.1 ≤ place ∧ place ≤ hi.1 ∧ row[place]? = some wanted := by
  fun_induction Array.binSearchAux with
  | case1 lo hi _ middle value less more _ ih =>
    -- Everything up to the middle is too small.
    have value_lt : value < wanted := by simpa using less
    apply Iff.trans ih
    constructor
    · intro given
      obtain ⟨place, from_middle, to_hi, found⟩ := given
      exact ⟨place, by simp only at from_middle; omega, to_hi, found⟩
    · intro given
      obtain ⟨place, _, to_hi, found⟩ := given
      obtain ⟨place_lt, place_eq⟩ := Array.getElem?_eq_some_iff.1 found
      refine ⟨place, ?_, to_hi, found⟩
      simp only
      by_cases same : place = middle
      · subst same
        omega
      · by_cases early : place < middle
        · have := getElem_lt_of_lt ascends (show middle < row.size by omega) early
          omega
        · omega
  | case2 lo hi _ middle value less stop =>
    have value_lt : value < wanted := by simpa using less
    simp only [Option.isSome_none, Bool.false_eq_true, false_iff]
    intro given
    obtain ⟨place, _, to_hi, found⟩ := given
    obtain ⟨place_lt, place_eq⟩ := Array.getElem?_eq_some_iff.1 found
    by_cases same : place = middle
    · subst same
      omega
    · have := getElem_lt_of_lt ascends (show middle < row.size by omega) (show place < middle by omega)
      omega
  | case3 lo hi _ middle value _ greater stop =>
    have lt_value : wanted < value := by simpa using greater
    simp only [Option.isSome_none, Bool.false_eq_true, false_iff]
    intro given
    obtain ⟨place, from_lo, _, found⟩ := given
    obtain ⟨place_lt, place_eq⟩ := Array.getElem?_eq_some_iff.1 found
    by_cases same : place = middle
    · subst same
      omega
    · have := getElem_lt_of_lt ascends place_lt (show middle < place by omega)
      omega
  | case4 lo hi _ middle value _ greater more _ ih =>
    -- Everything from the middle on is too large.
    have lt_value : wanted < value := by simpa using greater
    apply Iff.trans ih
    constructor
    · intro given
      obtain ⟨place, from_lo, to_middle, found⟩ := given
      exact ⟨place, from_lo, by simp only at to_middle; omega, found⟩
    · intro given
      obtain ⟨place, from_lo, to_hi, found⟩ := given
      obtain ⟨place_lt, place_eq⟩ := Array.getElem?_eq_some_iff.1 found
      refine ⟨place, from_lo, ?_, found⟩
      simp only
      by_cases same : place = middle
      · subst same
        omega
      · by_cases late : middle < place
        · have := getElem_lt_of_lt ascends place_lt late
          omega
        · omega
  | case5 lo hi _ middle value not_less not_greater =>
    have same : value = wanted := by
      simp only [decide_eq_true_eq] at not_less not_greater
      omega
    simp only [Option.isSome_some, true_iff]
    exact ⟨middle, by omega, by omega, by rw [← same]; exact Array.getElem?_eq_getElem _⟩

/-- Halving an increasing array finds exactly its members. -/
theorem binSearchContains_eq_true_iff {row : Array Nat} (ascends : row.toList.Pairwise (· < ·))
    (wanted : Nat) : row.binSearchContains wanted (· < ·) = true ↔ wanted ∈ row.toList := by
  rw [Array.binSearchContains, List.mem_iff_getElem?]
  by_cases nonempty : 0 < row.size
  · have last_lt : row.size - 1 < row.size := by omega
    simp only [nonempty, last_lt, ↓reduceIte, ↓reduceDIte, Nat.zero_le]
    rw [binSearchAux_eq_true_iff row ascends]
    constructor
    · intro given
      obtain ⟨place, _, _, found⟩ := given
      exact ⟨place, by simpa using found⟩
    · intro given
      obtain ⟨place, found⟩ := given
      rw [Array.getElem?_toList] at found
      obtain ⟨place_lt, _⟩ := Array.getElem?_eq_some_iff.1 found
      exact ⟨place, Nat.zero_le _, by simp only; omega, found⟩
  · simp only [nonempty, ↓reduceDIte, Bool.false_eq_true, false_iff]
    intro given
    obtain ⟨place, found⟩ := given
    rw [Array.getElem?_toList] at found
    obtain ⟨place_lt, _⟩ := Array.getElem?_eq_some_iff.1 found
    omega

theorem keepFound_eq_filter {cells : List Nat} (ascends : cells.Pairwise (· < ·))
    (candidates : List Nat) :
    keepFound cells candidates = candidates.filter fun cell => cells.contains cell := by
  apply List.filter_congr
  intro cell _
  rw [Bool.eq_iff_iff, binSearchContains_eq_true_iff (by simpa using ascends), List.contains_iff_mem]

end MeshSkin.Incidence
