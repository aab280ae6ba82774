import MeshSkin.Connectivity

/-!
# Connectivity as a list of lists

Through the view `toLists`, appending a cell appends a list, and looking up a cell looks up
a list.
-/

namespace MeshSkin.Connectivity

/-- Offsets are accepted exactly when they fit the ids, and are kept as they are. -/
theorem ofOffsets_eq_ok_iff {offsets ids : Array Nat} {cells : Connectivity} :
    ofOffsets offsets ids = .ok cells ↔ cells.offsets = offsets ∧ cells.ids = ids := by
  simp only [ofOffsets]
  split
  · simp only [Except.ok.injEq]
    constructor
    · rintro rfl
      exact ⟨rfl, rfl⟩
    · intro given
      obtain ⟨rfl, rfl⟩ := given
      rfl
  · rename_i fault refused
    simp only [reduceCtorEq, false_iff, not_and]
    rintro rfl rfl
    rw [checkOffsets_eq_ok_iff.2 cells.fit] at refused
    cases refused

theorem toLists_empty : empty.toLists = [] := rfl

/-- Ids appended behind all offsets leave the segments alone. -/
theorem segments_append (ids more : Array Nat) (offsets : List Nat)
    (inside : ∀ offset ∈ offsets, offset ≤ ids.size) :
    segments (ids ++ more) offsets = segments ids offsets := by
  induction offsets using segments.induct with
  | case1 lo hi rest ih =>
    have bound := inside hi (by simp)
    have later : ∀ offset ∈ hi :: rest, offset ≤ ids.size :=
      fun offset member => inside offset (List.mem_cons_of_mem lo member)
    rw [segments, segments, ih later]
    congr 2
    rw [Array.extract_append]
    simp [Nat.sub_eq_zero_of_le bound]
  | case2 offsets short => rw [segments, segments] <;> exact short

/-- One more offset adds the segment from the last one to it. -/
theorem segments_concat (ids : Array Nat) (last next : Nat) (front : List Nat) :
    segments ids (front ++ [last, next]) =
      segments ids (front ++ [last]) ++ [(ids.extract last next).toList] := by
  induction front with
  | nil => rfl
  | cons lo rest ih =>
    cases rest with
    | nil => rfl
    | cons hi rest =>
      simp only [List.cons_append] at ih ⊢
      rw [segments, segments, ih]
      rfl

/-- Appending a cell appends its list. -/
theorem toLists_push (cells : Connectivity) (cell : List Nat) :
    (cells.push cell).toLists = cells.toLists ++ [cell] := by
  obtain ⟨front, split⟩ := List.getLast?_eq_some_iff.1 cells.fit.getLast?_offsets
  have inside : ∀ offset ∈ front ++ [cells.ids.size], offset ≤ cells.ids.size := by
    intro offset member
    exact cells.fit.offset_le (split ▸ member)
  have joined : (cells.push cell).ids = cells.ids ++ cell.toArray :=
    Array.toList_inj.1 (by simp [push])
  rw [toLists, toLists, joined, split]
  simp only [push, Array.toList_push, split, List.append_assoc, List.cons_append, List.nil_append]
  rw [segments_concat, segments_append _ _ _ inside]
  simp [Array.extract_append]

theorem toLists_foldl_push (lists : List (List Nat)) (cells : Connectivity) :
    (lists.foldl push cells).toLists = cells.toLists ++ lists := by
  induction lists generalizing cells with
  | nil => simp
  | cons cell rest ih =>
    rw [List.foldl_cons, ih, toLists_push]
    simp

/-- Packing and reading back gives the same lists. -/
theorem toLists_ofLists (lists : List (List Nat)) : (ofLists lists).toLists = lists := by
  rw [ofLists, toLists_foldl_push, toLists_empty, List.nil_append]

theorem length_segments (ids : Array Nat) (offsets : List Nat) :
    (segments ids offsets).length = offsets.length - 1 := by
  induction offsets with
  | nil => rfl
  | cons lo rest ih =>
    cases rest with
    | nil => rfl
    | cons hi rest =>
      rw [segments, List.length_cons, ih]
      simp

theorem length_toLists (cells : Connectivity) : cells.toLists.length = cells.size := by
  simp [toLists, size, length_segments]

theorem size_ofLists (lists : List (List Nat)) : (ofLists lists).size = lists.length := by
  rw [← length_toLists, toLists_ofLists]

theorem getElem?_segments (ids : Array Nat) (offsets : List Nat) (i : Nat) :
    (segments ids offsets)[i]? =
      (offsets[i]?).bind fun lo => (offsets[i + 1]?).map fun hi => (ids.extract lo hi).toList := by
  induction offsets generalizing i with
  | nil => rfl
  | cons lo rest ih =>
    cases rest with
    | nil => cases i <;> simp [segments]
    | cons hi rest =>
      cases i with
      | zero => rfl
      | succ i =>
        rw [segments, List.getElem?_cons_succ, ih]
        simp

/-- Looking up a cell looks up a list. -/
theorem cell?_eq_getElem?_toLists (cells : Connectivity) (i : Nat) :
    cells.cell? i = cells.toLists[i]? := by
  rw [toLists, getElem?_segments]
  simp only [cell?, Option.bind_eq_bind, Array.getElem?_toList]
  cases first : cells.offsets[i]? with
  | none => rfl
  | some lo =>
    simp only [Option.bind_some]
    cases second : cells.offsets[i + 1]? with
    | none => rfl
    | some hi =>
      simp only [Option.bind_some, Option.map_some, slice?]
      rw [if_pos]
      obtain ⟨hi_lt, hi_eq⟩ := Array.getElem?_eq_some_iff.1 second
      obtain ⟨lo_lt, lo_eq⟩ := Array.getElem?_eq_some_iff.1 first
      refine ⟨?_, cells.fit.offset_le (by rw [← hi_eq]; simp)⟩
      have ascends := List.pairwise_iff_getElem.1 cells.fit.ascends i (i + 1)
        (by simpa using lo_lt) (by simpa using hi_lt) (by omega)
      simp only [Array.getElem_toList] at ascends
      omega

end MeshSkin.Connectivity
