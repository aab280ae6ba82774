/-!
# Offsets

An array of offsets cuts a flat array of ids into cells: cell `i` is the part from offset
`i` to offset `i + 1`. Offsets fit the ids if they start at zero, never decrease and end
at the number of ids. The check accepts exactly these and otherwise names the first fault.
-/

namespace MeshSkin

/-- Why offsets were refused. -/
inductive OffsetsFault where
  | noOffsets
  | nonzeroStart (first : Nat)
  | decrease (index earlier later : Nat)
  | lengthMismatch (last length : Nat)
  deriving DecidableEq, Repr

namespace OffsetsFault

def message : OffsetsFault → String
  | .noOffsets => "offsets are empty"
  | .nonzeroStart first => s!"first offset is {first}, expected 0"
  | .decrease index earlier later => s!"offset {index} decreases from {earlier} to {later}"
  | .lengthMismatch last length =>
    s!"last offset {last} does not match connectivity length {length}"

end OffsetsFault

/-- The shape that makes every cell readable. -/
structure OffsetsFit (offsets ids : Array Nat) : Prop where
  starts : offsets[0]? = some 0
  ascends : offsets.toList.Pairwise (· ≤ ·)
  ends : offsets.back? = some ids.size

/-- The first entry that is larger than its successor, as the successor's index and both
entries; the list given starts at index `start`. -/
def firstDecrease? (start : Nat) : List Nat → Option (Nat × Nat × Nat)
  | earlier :: later :: rest =>
    if later < earlier then some (start + 1, earlier, later)
    else firstDecrease? (start + 1) (later :: rest)
  | _ => none

def checkOffsets (offsets ids : Array Nat) : Except OffsetsFault Unit :=
  match offsets.toList with
  | [] => .error .noOffsets
  | first :: rest =>
    if first ≠ 0 then .error (.nonzeroStart first)
    else match firstDecrease? 0 (first :: rest) with
      | some (index, earlier, later) => .error (.decrease index earlier later)
      | none =>
        let last := (first :: rest).getLast (List.cons_ne_nil first rest)
        if last ≠ ids.size then .error (.lengthMismatch last ids.size)
        else .ok ()

theorem firstDecrease?_eq_none_iff (offsets : List Nat) (start : Nat) :
    firstDecrease? start offsets = none ↔ offsets.Pairwise (· ≤ ·) := by
  induction offsets generalizing start with
  | nil => simp [firstDecrease?]
  | cons earlier rest ih =>
    cases rest with
    | nil => simp [firstDecrease?]
    | cons later rest =>
      simp only [firstDecrease?]
      split
      · rename_i drop
        simp only [reduceCtorEq, List.pairwise_cons, List.mem_cons, false_iff, not_and]
        intro bound
        have := bound later (Or.inl rfl)
        omega
      · rename_i rise
        rw [ih (start + 1), List.pairwise_cons (a := earlier), iff_and_self]
        intro tail offset member
        rcases List.mem_cons.1 member with rfl | later_member
        · omega
        · have := (List.pairwise_cons.1 tail).1 offset later_member
          omega

/-- Offsets are accepted exactly when they fit the ids. -/
theorem checkOffsets_eq_ok_iff {offsets ids : Array Nat} :
    checkOffsets offsets ids = .ok () ↔ OffsetsFit offsets ids := by
  obtain ⟨offsets⟩ := offsets
  cases offsets with
  | nil =>
    simp only [checkOffsets, reduceCtorEq, false_iff]
    intro fit
    simpa using fit.starts
  | cons first rest =>
    have last_eq := List.getLast?_eq_some_getLast (List.cons_ne_nil first rest)
    simp only [checkOffsets]
    split
    · rename_i nonzero
      simp only [reduceCtorEq, false_iff]
      intro fit
      exact nonzero (by simpa using fit.starts)
    · rename_i zero
      simp only [Decidable.not_not] at zero
      split
      · rename_i index earlier later found
        simp only [reduceCtorEq, false_iff]
        intro fit
        have none := (firstDecrease?_eq_none_iff (first :: rest) 0).2 fit.ascends
        rw [none] at found
        cases found
      · rename_i ascending
        have ascends := (firstDecrease?_eq_none_iff (first :: rest) 0).1 ascending
        split
        · rename_i mismatch
          simp only [reduceCtorEq, false_iff]
          intro fit
          have ends := fit.ends
          rw [List.back?_toArray, last_eq] at ends
          exact mismatch (Option.some.inj ends)
        · rename_i fits
          simp only [Decidable.not_not] at fits
          simp only [true_iff]
          exact ⟨by simp [zero], ascends, by rw [List.back?_toArray, last_eq, fits]⟩

theorem OffsetsFit.getLast?_offsets {offsets ids : Array Nat} (fit : OffsetsFit offsets ids) :
    offsets.toList.getLast? = some ids.size := by
  obtain ⟨offsets⟩ := offsets
  simpa using fit.ends

/-- No offset points past the ids. -/
theorem OffsetsFit.offset_le {offsets ids : Array Nat} (fit : OffsetsFit offsets ids)
    {offset : Nat} (member : offset ∈ offsets.toList) : offset ≤ ids.size := by
  obtain ⟨front, split⟩ := List.getLast?_eq_some_iff.1 fit.getLast?_offsets
  rw [split] at member
  rcases List.mem_append.1 member with early | last
  · have ascends := fit.ascends
    rw [split] at ascends
    exact (List.pairwise_append.1 ascends).2.2 offset early _ (by simp)
  · simp at last
    omega

theorem OffsetsFit.empty : OffsetsFit #[0] #[] where
  starts := rfl
  ascends := by simp
  ends := rfl

/-- One more offset, at the end of the ids of one more cell. -/
theorem OffsetsFit.push {offsets ids : Array Nat} (fit : OffsetsFit offsets ids)
    (cell : List Nat) : OffsetsFit (offsets.push (ids.size + cell.length)) (ids ++ cell) where
  starts := by
    have starts := fit.starts
    simp only [Array.getElem?_push]
    split
    · rename_i none
      simp [← none] at starts
    · exact starts
  ascends := by
    simp only [Array.toList_push, List.pairwise_append, List.pairwise_singleton, true_and]
    refine ⟨fit.ascends, fun offset member last isLast => ?_⟩
    have := fit.offset_le member
    simp at isLast
    omega
  ends := by
    simp only [Array.back?_push, ← Array.length_toList, Array.toList_appendList,
      List.length_append]

end MeshSkin
