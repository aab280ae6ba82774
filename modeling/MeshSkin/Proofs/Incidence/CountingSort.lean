import MeshSkin.Proofs.Incidence.Walk

/-!
# The two passes of the incidence

Both passes act on the same pairs of a cell and a point. The first one counts them point by
point, so that the offsets leave each point exactly the room it needs; the second one never
writes outside that room and fills it in the order of the cells. So the offsets are the places
at which the rooms begin, and the cells are the rows of the points one behind the other
(`ofCells_eq_some`), whatever stood in their place before (`foldlM_fill`). What can then be read
at a point are its cells, each once and in increasing order (`ofCells_exact`).
-/

namespace MeshSkin.Incidence

variable {pairs : List (Nat × Nat)}

/-- Where the cells of a point begin, if every point before it has room for its own. -/
def firstPlace (pairs : List (Nat × Nat)) : Nat → Nat
  | 0 => 0
  | point + 1 => firstPlace pairs point + (rowOf pairs point).length

theorem firstPlace_mono {low high : Nat} (h : low ≤ high) :
    firstPlace pairs low ≤ firstPlace pairs high := by
  induction h with
  | refl => exact Nat.le_refl _
  | step _ ih => exact Nat.le_trans ih (Nat.le_add_right _ _)

theorem rowOf_append (front back : List (Nat × Nat)) (point : Nat) :
    rowOf (front ++ back) point = rowOf front point ++ rowOf back point := by
  simp [rowOf]

theorem rowOf_cons (cell other point : Nat) (rest : List (Nat × Nat)) :
    rowOf ((cell, other) :: rest) point =
      if other = point then cell :: rowOf rest point else rowOf rest point := by
  by_cases same : other = point <;> simp [rowOf, same]

/-- The first pass adds to each count the number of pairs with that point. -/
theorem foldlM_count (pairs : List (Nat × Nat)) (counts : Array Nat)
    (inside : ∀ pair ∈ pairs, pair.2 < counts.size) :
    ∃ counted : Array Nat,
      pairs.foldlM (fun counts pair => count counts pair.1 pair.2) counts = some counted ∧
        counted.size = counts.size ∧
        ∀ point, counted[point]? = counts[point]?.map (· + (rowOf pairs point).length) := by
  induction pairs generalizing counts with
  | nil => exact ⟨counts, rfl, rfl, fun point => by simp [rowOf]⟩
  | cons pair rest ih =>
    obtain ⟨cell, other⟩ := pair
    have other_lt : other < counts.size := inside (cell, other) (by simp)
    obtain ⟨counted, run, size, holds⟩ := ih (counts.setIfInBounds other (counts[other] + 1))
      (by simpa using fun a b member => inside (a, b) (List.mem_cons_of_mem _ member))
    refine ⟨counted, ?_, by simpa using size, ?_⟩
    · rw [List.foldlM_cons, count, Array.getElem?_eq_getElem other_lt]
      exact run
    · intro point
      rw [holds point, rowOf_cons, Array.getElem?_setIfInBounds]
      by_cases same : other = point
      · subst same
        simp [other_lt]
        omega
      · simp [same]

/-- The counts of the first pass. -/
theorem counts_eq {numPoints : Nat} (inside : ∀ pair ∈ pairs, pair.2 < numPoints) :
    pairs.foldlM (fun counts pair => count counts pair.1 pair.2) (Array.replicate numPoints 0) =
      some ((List.range numPoints).map fun point => (rowOf pairs point).length).toArray := by
  obtain ⟨counted, run, size, holds⟩ :=
    foldlM_count pairs (Array.replicate numPoints 0) (by simpa using inside)
  rw [run, Option.some.injEq]
  apply Array.ext_getElem?
  intro point
  rw [holds point, Array.getElem?_replicate]
  by_cases bound : point < numPoints <;> simp [bound]

theorem foldl_lengths (point : Nat) :
    ((List.range point).map fun other => (rowOf pairs other).length).foldl (· + ·) 0 =
      firstPlace pairs point := by
  induction point with
  | zero => rfl
  | succ point ih =>
    rw [List.range_succ, List.map_append, List.foldl_append, ih]
    rfl

/-- The offsets are the places at which the points begin, and at last the end of them all. -/
theorem offsetsOf_eq (pairs : List (Nat × Nat)) (numPoints : Nat) :
    offsetsOf ((List.range numPoints).map fun point => (rowOf pairs point).length).toArray =
      ((List.range (numPoints + 1)).map (firstPlace pairs)).toArray := by
  unfold offsetsOf
  apply Array.ext_getElem?
  intro point
  rw [List.getElem?_toArray, List.getElem?_scanl, List.length_map, List.length_range]
  split
  · rename_i bound
    rw [← List.map_take, List.take_range, Nat.min_eq_left bound, foldl_lengths]
    simp [Nat.lt_succ_of_le bound]
  · rename_i outside
    simp [show ¬ point < numPoints + 1 by omega]

/-- What the second pass has done after some of the pairs: each point has its first cells,
and its next place is right behind them. -/
structure Filled (pairs : List (Nat × Nat)) (numPoints : Nat) (done : List (Nat × Nat))
    (filling : Filling) : Prop where
  next_size : filling.next.size = numPoints
  next_eq : ∀ point, point < numPoints →
    filling.next[point]? = some (firstPlace pairs point + (rowOf done point).length)
  size_eq : filling.cells.size = firstPlace pairs numPoints
  cells_eq : ∀ point, point < numPoints → ∀ i, i < (rowOf done point).length →
    filling.cells[firstPlace pairs point + i]? = (rowOf done point)[i]?

/-- Room is left for a pair that has not been met yet. -/
theorem nextPlace_lt {done rest : List (Nat × Nat)} {cell point : Nat}
    (split : pairs = done ++ (cell, point) :: rest) :
    firstPlace pairs point + (rowOf done point).length < firstPlace pairs (point + 1) := by
  have row : rowOf pairs point = rowOf done point ++ cell :: rowOf rest point := by
    rw [split, rowOf_append, rowOf_cons, if_pos rfl]
  rw [firstPlace, row]
  simp

/-- One write of the second pass goes into the room of its own point and behind what is
there already, so it changes nothing that was written before. -/
theorem Filled.step {numPoints : Nat} {done rest : List (Nat × Nat)} {cell point : Nat}
    {filling : Filling} (filled : Filled pairs numPoints done filling)
    (split : pairs = done ++ (cell, point) :: rest) (point_lt : point < numPoints) :
    ∃ next, fill filling cell point = some next ∧
      Filled pairs numPoints (done ++ [(cell, point)]) next := by
  have room := nextPlace_lt split
  have place_lt : firstPlace pairs point + (rowOf done point).length < filling.cells.size := by
    rw [filled.size_eq]
    exact Nat.lt_of_lt_of_le room (firstPlace_mono point_lt)
  have found := filled.next_eq point point_lt
  have next_lt : point < filling.next.size := (Array.getElem?_eq_some_iff.1 found).1
  have row : ∀ other, rowOf (done ++ [(cell, point)]) other =
      if point = other then rowOf done other ++ [cell] else rowOf done other := by
    intro other
    rw [rowOf_append, rowOf_cons]
    split <;> simp [rowOf]
  refine ⟨⟨filling.next.setIfInBounds point (firstPlace pairs point + (rowOf done point).length + 1),
    filling.cells.setIfInBounds (firstPlace pairs point + (rowOf done point).length) cell⟩,
    ?_, ?_, ?_, ?_, ?_⟩
  · simp only [fill, found, Option.bind_eq_bind, Option.bind_some, if_pos place_lt]
  · simpa using filled.next_size
  · intro other other_lt
    simp only [Array.getElem?_setIfInBounds, row]
    split
    · rename_i same
      subst same
      simp [Nat.add_assoc]
    · exact filled.next_eq other other_lt
  · simpa using filled.size_eq
  · intro other other_lt i i_lt
    simp only [row] at i_lt ⊢
    rw [Array.getElem?_setIfInBounds]
    by_cases same : point = other
    · subst same
      simp only [↓reduceIte, List.length_append, List.length_singleton] at i_lt
      by_cases last : i = (rowOf done point).length
      · subst last
        simp [place_lt]
      · have before : i < (rowOf done point).length := by omega
        rw [if_neg (by omega), if_pos rfl, List.getElem?_append_left before]
        exact filled.cells_eq point point_lt i before
    · simp only [if_neg same] at i_lt ⊢
      have own : i < (rowOf pairs other).length := by
        rw [split, rowOf_append, List.length_append]
        exact Nat.lt_add_right _ i_lt
      have own_end : firstPlace pairs other + i < firstPlace pairs (other + 1) := by
        rw [firstPlace]
        omega
      -- The rooms of different points do not overlap.
      have apart : firstPlace pairs point + (rowOf done point).length ≠
          firstPlace pairs other + i := by
        rcases Nat.lt_or_gt_of_ne same with low | high
        · have later : firstPlace pairs (point + 1) ≤ firstPlace pairs other := firstPlace_mono low
          omega
        · have earlier : firstPlace pairs (other + 1) ≤ firstPlace pairs point :=
            firstPlace_mono high
          omega
      rw [if_neg apart]
      exact filled.cells_eq other other_lt i i_lt

/-- The second pass meets every pair and ends with all rooms full. -/
theorem Filled.run {numPoints : Nat} (inside : ∀ pair ∈ pairs, pair.2 < numPoints)
    (rest done : List (Nat × Nat)) (filling : Filling) (split : pairs = done ++ rest)
    (filled : Filled pairs numPoints done filling) :
    ∃ last, rest.foldlM (fun filling pair => fill filling pair.1 pair.2) filling = some last ∧
      Filled pairs numPoints pairs last := by
  induction rest generalizing done filling with
  | nil =>
    rw [List.append_nil] at split
    exact ⟨filling, rfl, split ▸ filled⟩
  | cons pair rest ih =>
    obtain ⟨next, filled_one, kept⟩ := filled.step split (inside pair (by simp [split]))
    obtain ⟨last, filled_rest, full⟩ := ih (done ++ [pair]) next (by simp [split]) kept
    refine ⟨last, ?_, full⟩
    rw [List.foldlM_cons, filled_one]
    exact filled_rest

/-- Before the first write nothing has to hold, so the room may have held anything. -/
theorem Filled.start (numPoints : Nat) {buffer : Array Nat}
    (room : buffer.size = firstPlace pairs numPoints) :
    Filled pairs numPoints [] ⟨((List.range numPoints).map (firstPlace pairs)).toArray, buffer⟩ where
  next_size := by simp
  next_eq point point_lt := by simp [point_lt, rowOf]
  size_eq := room
  cells_eq point _ i i_lt := by simp [rowOf] at i_lt

/-- Full rooms can be read: at each point stand its cells. -/
theorem Filled.slice?_eq {numPoints point : Nat} {filling : Filling}
    (full : Filled pairs numPoints pairs filling) (point_lt : point < numPoints) :
    slice? filling.cells (firstPlace pairs point) (firstPlace pairs (point + 1)) =
      some (rowOf pairs point) := by
  have inside : firstPlace pairs (point + 1) ≤ filling.cells.size := by
    rw [full.size_eq]
    exact firstPlace_mono point_lt
  rw [slice?, if_pos ⟨firstPlace_mono (Nat.le_succ point), inside⟩, Option.some.injEq]
  apply List.ext_getElem?
  intro i
  rw [Array.getElem?_toList, Array.getElem?_extract, Nat.min_eq_left inside, firstPlace]
  split
  · rename_i bound
    exact full.cells_eq point point_lt i (by omega)
  · rename_i outside
    exact (List.getElem?_eq_none (by omega)).symm

/-- The rows of the first points, one behind the other, are all that stands in their rooms. -/
theorem Filled.take_cells {numPoints : Nat} {filling : Filling}
    (full : Filled pairs numPoints pairs filling) {count : Nat} (bound : count ≤ numPoints) :
    filling.cells.toList.take (firstPlace pairs count) =
      (List.range count).flatMap (rowOf pairs) := by
  induction count with
  | zero => rfl
  | succ count ih =>
    obtain ⟨ascends, _, row⟩ := slice?_eq_some_iff.1 (full.slice?_eq bound)
    rw [List.range_succ, List.flatMap_append, List.flatMap_singleton, ← ih (Nat.le_of_lt bound),
      row, ← Nat.min_eq_left ascends, ← List.take_take, Nat.min_eq_left ascends,
      List.take_append_drop]

/-- At the end of the second pass every place stands where the next row begins, and the rows stand
one behind the other. -/
theorem Filled.eq {numPoints : Nat} {filling : Filling}
    (full : Filled pairs numPoints pairs filling) :
    filling = ⟨((List.range numPoints).map fun point => firstPlace pairs (point + 1)).toArray,
      ((List.range numPoints).flatMap (rowOf pairs)).toArray⟩ := by
  have next : filling.next =
      ((List.range numPoints).map fun point => firstPlace pairs (point + 1)).toArray := by
    apply Array.ext_getElem?
    intro point
    by_cases bound : point < numPoints
    · rw [full.next_eq point bound]
      simp [bound, firstPlace]
    · rw [Array.getElem?_eq_none (by rw [full.next_size]; omega)]
      simp [bound]
  have cells : filling.cells = ((List.range numPoints).flatMap (rowOf pairs)).toArray := by
    apply Array.toList_inj.1
    have taken := full.take_cells (Nat.le_refl numPoints)
    rwa [← full.size_eq, ← Array.length_toList, List.take_length] at taken
  cases filling
  simp only at next cells
  rw [next, cells]

/-- The second pass ends in the same way, whatever its buffer holds before. -/
theorem foldlM_fill {numPoints : Nat} (inside : ∀ pair ∈ pairs, pair.2 < numPoints)
    {buffer : Array Nat} (room : buffer.size = firstPlace pairs numPoints) :
    pairs.foldlM (fun filling pair => fill filling pair.1 pair.2)
        ⟨((List.range numPoints).map (firstPlace pairs)).toArray, buffer⟩ =
      some ⟨((List.range numPoints).map fun point => firstPlace pairs (point + 1)).toArray,
        ((List.range numPoints).flatMap (rowOf pairs)).toArray⟩ := by
  obtain ⟨last, filled, full⟩ := Filled.run inside pairs [] _ rfl (.start numPoints room)
  rw [filled, full.eq]

section Cells

variable {numPoints : Nat} {cells : List Cell}
  (inside : ∀ cell ∈ cells, ∀ id ∈ cell.points, id < numPoints)

include inside

theorem snd_lt_of_mem_mentions : ∀ pair ∈ mentions cells, pair.2 < numPoints := by
  intro pair member
  obtain ⟨cell, listed, mentioned⟩ := snd_mem_of_mem_mentions member
  exact inside cell listed _ mentioned

variable (ordered : cells.Pairwise fun first second => first.id < second.id)

include ordered

/-- The incidence of cells in increasing id order on points that exist, as both passes leave it. -/
theorem ofCells_eq_some :
    ofCells numPoints cells =
      some ⟨((List.range (numPoints + 1)).map (firstPlace (mentions cells))).toArray,
        ((List.range numPoints).flatMap (rowOf (mentions cells))).toArray⟩ := by
  have pairs_inside := snd_lt_of_mem_mentions inside
  have counted := (meetAll_eq_foldlM count (Array.replicate numPoints 0) inside ordered).trans
    (counts_eq pairs_inside)
  have next : slice? ((List.range (numPoints + 1)).map (firstPlace (mentions cells))).toArray
      0 numPoints = some ((List.range numPoints).map (firstPlace (mentions cells))) := by
    rw [slice?_eq_some_iff]
    simp [← List.map_take, List.take_range]
  have total : ((List.range (numPoints + 1)).map (firstPlace (mentions cells))).toArray[numPoints]? =
      some (firstPlace (mentions cells) numPoints) := by
    simp
  have room : (Array.replicate (firstPlace (mentions cells) numPoints) 0).size =
      firstPlace (mentions cells) numPoints := Array.size_replicate
  simp only [ofCells, counted, offsetsOf_eq, Option.bind_eq_bind, Option.bind_some, next, total,
    meetAll_eq_foldlM fill _ inside ordered, foldlM_fill pairs_inside room]
  rfl

/-- At each point stand the cells that contain it. -/
theorem ofCells_exact :
    ∃ incidence, ofCells numPoints cells = some incidence ∧
      incidence.numPoints = numPoints ∧
      ∀ point, incidence.cellsAt? point =
        if point < numPoints then
          some ((cells.filter fun cell => cell.points.contains point).map Cell.id)
        else none := by
  obtain ⟨last, _, full⟩ := Filled.run (snd_lt_of_mem_mentions inside) (mentions cells) [] _ rfl
    (.start numPoints (Array.size_replicate (v := 0)))
  refine ⟨_, ofCells_eq_some inside ordered, by simp [Incidence.numPoints], fun point => ?_⟩
  simp only [cellsAt?, Option.bind_eq_bind]
  by_cases bound : point < numPoints
  · have slice := full.slice?_eq bound
    rw [full.eq] at slice
    rw [if_pos bound, ← rowOf_mentions, ← slice]
    simp [Nat.lt_succ_of_lt bound, bound]
  · simp [bound]

end Cells

end MeshSkin.Incidence
