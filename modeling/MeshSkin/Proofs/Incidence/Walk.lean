import MeshSkin.Incidence

/-!
# Meeting each point once per cell

A walk over the cells acts once for every pair of a cell and a point that it contains, in
the order in which cells mention points for the first time (`meetAll_eq_foldlM`). What the
walk does at one point is therefore done for exactly the cells that contain it, in their
order (`rowOf_mentions`).
-/

namespace MeshSkin.Incidence

/-- The ids that are mentioned for the first time, in order, if those of `seen` were
mentioned before. -/
def firstMentions (seen : List Nat) : List Nat → List Nat
  | [] => []
  | id :: rest =>
    if id ∈ seen then firstMentions seen rest else id :: firstMentions (id :: seen) rest

/-- The pairs of a cell and a point of it, each once. -/
def mentions (cells : List Cell) : List (Nat × Nat) :=
  cells.flatMap fun cell => (firstMentions [] cell.points).map fun point => (cell.id, point)

/-- The cells of the pairs that have a given point. -/
def rowOf (pairs : List (Nat × Nat)) (point : Nat) : List Nat :=
  (pairs.filter fun pair => pair.2 == point).map Prod.fst

theorem mem_of_mem_firstMentions {point : Nat} {seen ids : List Nat}
    (h : point ∈ firstMentions seen ids) : point ∈ ids := by
  induction ids generalizing seen with
  | nil => exact h
  | cons id rest ih =>
    rw [firstMentions] at h
    split at h
    · exact List.mem_cons_of_mem id (ih h)
    · rcases List.mem_cons.1 h with rfl | later
      · exact List.mem_cons_self
      · exact List.mem_cons_of_mem id (ih later)

/-- Each id is mentioned for the first time once. -/
theorem filter_firstMentions (point : Nat) (seen ids : List Nat) :
    (firstMentions seen ids).filter (· == point) =
      if point ∈ ids ∧ point ∉ seen then [point] else [] := by
  induction ids generalizing seen with
  | nil => simp [firstMentions]
  | cons id rest ih =>
    rw [firstMentions]
    split
    · rename_i known
      rw [ih]
      by_cases same : point = id
      · subst same
        simp [known]
      · simp [same]
    · rename_i new
      rw [List.filter_cons, ih]
      by_cases same : point = id
      · subst same
        simp [new]
      · have other : ¬ id = point := fun equal => same equal.symm
        simp [same, other]

theorem snd_mem_of_mem_mentions {cells : List Cell} {pair : Nat × Nat}
    (h : pair ∈ mentions cells) : ∃ cell ∈ cells, pair.2 ∈ cell.points := by
  simp only [mentions, List.mem_flatMap, List.mem_map] at h
  obtain ⟨cell, member, point, mentioned, rfl⟩ := h
  exact ⟨cell, member, mem_of_mem_firstMentions mentioned⟩

/-- A point is mentioned by exactly the cells that contain it, once by each. -/
theorem rowOf_mentions (cells : List Cell) (point : Nat) :
    rowOf (mentions cells) point =
      (cells.filter fun cell => cell.points.contains point).map Cell.id := by
  induction cells with
  | nil => rfl
  | cons cell rest ih =>
    have head : rowOf ((firstMentions [] cell.points).map fun p => (cell.id, p)) point =
        if cell.points.contains point then [cell.id] else [] := by
      have once := filter_firstMentions point [] cell.points
      simp only [List.not_mem_nil, not_false_eq_true, and_true] at once
      simp only [rowOf, List.filter_map, List.map_map, List.contains_iff_mem]
      rw [show ((fun pair : Nat × Nat => pair.2 == point) ∘ fun p => (cell.id, p)) =
        (· == point) from rfl, once]
      split <;> rfl
    rw [mentions, List.flatMap_cons, rowOf, List.filter_append, List.map_append]
    change rowOf _ point ++ rowOf (mentions rest) point = _
    rw [head, ih, List.filter_cons]
    split <;> rfl

section Walk

variable {σ : Type} (act : σ → Nat → Nat → Option σ)

/-- The points of one cell. `seen` are those that the cell itself has marked so far; marks
of other cells are as good as none. -/
theorem foldlM_meet (cell : Nat) (ids : List Nat) :
    ∀ (seen : List Nat) (last : Array (Option Nat)) (state : σ),
      (∀ id ∈ ids, id < last.size) → (∀ id, last[id]? = some (some cell) ↔ id ∈ seen) →
      ∃ marked : Array (Option Nat), marked.size = last.size ∧
        (∀ (id other : Nat), marked[id]? = some (some other) →
          last[id]? = some (some other) ∨ other = cell) ∧
        ids.foldlM (meet act cell) (last, state) =
          ((firstMentions seen ids).foldlM (fun state point => act state cell point) state).map
            fun state => (marked, state) := by
  induction ids with
  | nil => exact fun seen last state _ _ => ⟨last, rfl, fun _ _ => Or.inl, rfl⟩
  | cons id rest ih =>
    intro seen last state inside marks
    have id_lt := inside id (by simp)
    have rest_lt : ∀ other ∈ rest, other < last.size :=
      fun other member => inside other (List.mem_cons_of_mem id member)
    have found : last[id]? = some last[id] := Array.getElem?_eq_getElem id_lt
    rw [List.foldlM_cons, firstMentions]
    by_cases same : last[id] = some cell
    · -- The cell has met the point before, so neither side acts.
      have known : id ∈ seen := (marks id).1 (found.trans (congrArg some same))
      obtain ⟨marked, size, old, walked⟩ := ih seen last state rest_lt marks
      refine ⟨marked, size, old, ?_⟩
      simp only [meet, found, Option.bind_eq_bind, Option.bind_some, if_pos same, if_pos known]
      exact walked
    · have new : id ∉ seen := by
        intro member
        have met := (marks id).2 member
        rw [found] at met
        exact same (Option.some.inj met)
      simp only [meet, found, Option.bind_eq_bind, Option.bind_some, if_neg same, if_neg new,
        List.foldlM_cons]
      cases act state cell id with
      | none => exact ⟨last, rfl, fun _ _ => Or.inl, rfl⟩
      | some next =>
        have next_marks : ∀ other, (last.setIfInBounds id (some cell))[other]? = some (some cell) ↔
            other ∈ id :: seen := by
          intro other
          rw [Array.getElem?_setIfInBounds, List.mem_cons, ← marks other]
          split
          · rename_i equal
            subst equal
            simp [id_lt]
          · rename_i different
            simp [show ¬ other = id from fun equal => different equal.symm]
        obtain ⟨marked, size, old, walked⟩ := ih (id :: seen) _ next
          (by simpa using rest_lt) next_marks
        refine ⟨marked, by simpa using size, ?_, walked⟩
        intro other mark met
        rcases old other mark met with before | own
        · rw [Array.getElem?_setIfInBounds] at before
          split at before
          · exact Or.inr (Option.some.inj (Option.some.inj before)).symm
          · exact Or.inl before
        · exact Or.inr own

/-- All cells. Marks left by the cells before do not stop a later cell from acting. -/
theorem foldlM_meetAll (cells : List Cell) :
    ∀ (last : Array (Option Nat)) (state : σ),
      (∀ cell ∈ cells, ∀ id ∈ cell.points, id < last.size) →
      cells.Pairwise (fun first second => first.id < second.id) →
      (∀ (id other : Nat), last[id]? = some (some other) → ∀ cell ∈ cells, other < cell.id) →
      (cells.foldlM (fun walk (cell : Cell) => cell.points.foldlM (meet act cell.id) walk)
          (last, state)).map Prod.snd =
        (mentions cells).foldlM (fun state pair => act state pair.1 pair.2) state := by
  induction cells with
  | nil => exact fun _ _ _ _ _ => rfl
  | cons cell rest ih =>
    intro last state inside ordered earlier
    obtain ⟨before_rest, ordered_rest⟩ := List.pairwise_cons.1 ordered
    have unmarked : ∀ id, last[id]? = some (some cell.id) ↔ id ∈ ([] : List Nat) := by
      intro id
      simp only [List.not_mem_nil, iff_false]
      intro mark
      exact Nat.lt_irrefl _ (earlier id cell.id mark cell (by simp))
    obtain ⟨marked, size, old, walked⟩ :=
      foldlM_meet act cell.id cell.points [] last state (inside cell (by simp)) unmarked
    rw [List.foldlM_cons, walked, mentions, List.flatMap_cons, List.foldlM_append,
      List.foldlM_map]
    cases (firstMentions [] cell.points).foldlM (fun state point => act state cell.id point)
      state with
    | none => rfl
    | some next =>
      refine ih marked next ?_ ordered_rest ?_
      · intro other member
        rw [size]
        exact inside other (List.mem_cons_of_mem cell member)
      · intro id other mark later member
        rcases old id other mark with before | own
        · exact earlier id other before later (List.mem_cons_of_mem cell member)
        · rw [own]
          exact before_rest later member

/-- A walk over cells in increasing id order acts once for each pair of a cell and a point
of it. -/
theorem meetAll_eq_foldlM {numPoints : Nat} {cells : List Cell} (start : σ)
    (inside : ∀ cell ∈ cells, ∀ id ∈ cell.points, id < numPoints)
    (ordered : cells.Pairwise fun first second => first.id < second.id) :
    meetAll act numPoints cells start =
      (mentions cells).foldlM (fun state pair => act state pair.1 pair.2) start := by
  refine foldlM_meetAll act cells _ start (by simpa using inside) ordered ?_
  intro id other mark
  rw [Array.getElem?_replicate] at mark
  split at mark <;> simp at mark

end Walk

end MeshSkin.Incidence
