import MeshSkin.Connectivity.Lemmas

/-!
# One connectivity for each list of lists

The ids of a connectivity are its cells one behind the other, and its offsets are the running
totals of their lengths. So a connectivity is determined by its cells, however it was made
(`eq_of_toLists_eq`), and packing its cells again gives the same one.
-/

namespace MeshSkin.Connectivity

/-- The lengths of the segments lead from each offset to the next. -/
theorem scanl_length_segments {ids : Array Nat} (lo : Nat) (rest : List Nat)
    (ascends : (lo :: rest).Pairwise (· ≤ ·)) (inside : ∀ offset ∈ rest, offset ≤ ids.size) :
    List.scanl (· + ·) lo ((segments ids (lo :: rest)).map List.length) = lo :: rest := by
  induction rest generalizing lo with
  | nil => rfl
  | cons hi rest ih =>
    have step : lo ≤ hi := (List.pairwise_cons.1 ascends).1 hi (by simp)
    have bound : hi ≤ ids.size := inside hi (by simp)
    have length : lo + (ids.extract lo hi).toList.length = hi := by
      simp only [Array.length_toList, Array.size_extract]
      omega
    rw [segments, List.map_cons, List.scanl_cons, length,
      ih hi (List.pairwise_cons.1 ascends).2 fun offset member =>
        inside offset (List.mem_cons_of_mem hi member)]

/-- The segments one behind the other are everything between the first and the last offset. -/
theorem flatten_segments {ids : Array Nat} (lo : Nat) (rest : List Nat)
    (ascends : (lo :: rest).Pairwise (· ≤ ·)) {last : Nat}
    (ends : (lo :: rest).getLast? = some last) :
    (segments ids (lo :: rest)).flatten = (ids.extract lo last).toList := by
  induction rest generalizing lo with
  | nil =>
    obtain rfl : lo = last := Option.some.inj ends
    simp [segments]
  | cons hi rest ih =>
    have step : lo ≤ hi := (List.pairwise_cons.1 ascends).1 hi (by simp)
    have later : (hi :: rest).Pairwise (· ≤ ·) := (List.pairwise_cons.1 ascends).2
    rw [List.getLast?_cons_cons] at ends
    have beyond : hi ≤ last := by
      rcases List.mem_cons.1 (List.mem_of_getLast? ends) with rfl | member
      · exact Nat.le_refl _
      · exact (List.pairwise_cons.1 later).1 last member
    rw [segments, List.flatten_cons, ih hi later ends, ← Array.toList_append,
      Array.extract_append_extract, Nat.min_eq_left step, Nat.max_eq_right beyond]

/-- The offsets start at zero. -/
theorem offsets_eq_cons (cells : Connectivity) : ∃ rest, cells.offsets.toList = 0 :: rest := by
  have starts := cells.fit.starts
  rw [← Array.getElem?_toList] at starts
  cases offsets : cells.offsets.toList with
  | nil => simp [offsets] at starts
  | cons first rest =>
    rw [offsets, List.getElem?_cons_zero, Option.some.injEq] at starts
    exact ⟨rest, by rw [starts]⟩

theorem flatten_toLists (cells : Connectivity) : cells.toLists.flatten = cells.ids.toList := by
  obtain ⟨rest, split⟩ := cells.offsets_eq_cons
  have ascends := cells.fit.ascends
  have ends := cells.fit.getLast?_offsets
  rw [split] at ascends ends
  rw [toLists, split, flatten_segments 0 rest ascends ends]
  simp

theorem scanl_length_toLists (cells : Connectivity) :
    List.scanl (· + ·) 0 (cells.toLists.map List.length) = cells.offsets.toList := by
  obtain ⟨rest, split⟩ := cells.offsets_eq_cons
  have ascends := cells.fit.ascends
  have inside : ∀ offset ∈ rest, offset ≤ cells.ids.size := fun offset member =>
    cells.fit.offset_le (split ▸ List.mem_cons_of_mem 0 member)
  rw [split] at ascends
  rw [toLists, split, scanl_length_segments 0 rest ascends inside]

/-- A connectivity is determined by its cells. -/
theorem eq_of_toLists_eq {first second : Connectivity} (same : first.toLists = second.toLists) :
    first = second := by
  have offsets : first.offsets = second.offsets :=
    Array.toList_inj.1 (by rw [← scanl_length_toLists, ← scanl_length_toLists, same])
  have ids : first.ids = second.ids :=
    Array.toList_inj.1 (by rw [← flatten_toLists, ← flatten_toLists, same])
  cases first
  cases second
  simp only at offsets ids
  subst offsets
  subst ids
  rfl

/-- Packing the cells of a connectivity again gives the same connectivity. -/
theorem ofLists_toLists (cells : Connectivity) : ofLists cells.toLists = cells :=
  eq_of_toLists_eq (toLists_ofLists cells.toLists)

end MeshSkin.Connectivity
