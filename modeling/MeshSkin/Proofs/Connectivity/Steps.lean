import Mathlib.Data.List.Chain
import Mathlib.Data.List.Induction
import MeshSkin.Connectivity.Room
import MeshSkin.Proofs.Connectivity.Canonical

/-!
# A connectivity after any steps

However a connectivity was made, cell by cell or from offsets that were accepted, it stands for a
list of cells and is the only one that does (`Connectivity.after_canonical`). The list is found
without the connectivity: accepted offsets cut their ids, and every cell appended since stands
behind (`Connectivity.Step.list`).
-/

namespace MeshSkin

instance (offsets ids : Array Nat) : Decidable (OffsetsFit offsets ids) :=
  decidable_of_iff
    (offsets[0]? = some 0 ∧ offsets.toList.Pairwise (· ≤ ·) ∧ offsets.back? = some ids.size)
    ⟨fun given => ⟨given.1, given.2.1, given.2.2⟩, fun fit => ⟨fit.starts, fit.ascends, fit.ends⟩⟩

/-- Offsets ascend if none of them is larger than the next one. -/
theorem pairwise_le_iff_next {offsets : Array Nat} :
    offsets.toList.Pairwise (· ≤ ·) ↔
      ∀ i lo hi, offsets[i]? = some lo → offsets[i + 1]? = some hi → lo ≤ hi := by
  rw [← List.isChain_iff_pairwise, List.isChain_iff_getElem]
  constructor
  · intro ascends i lo hi first second
    obtain ⟨_, rfl⟩ := Array.getElem?_eq_some_iff.1 first
    obtain ⟨bound, rfl⟩ := Array.getElem?_eq_some_iff.1 second
    exact ascends i bound
  · intro ascends i bound
    exact ascends i _ _ (Array.getElem?_eq_getElem (Nat.lt_of_succ_lt bound))
      (Array.getElem?_eq_getElem bound)

namespace Connectivity

/-- The lists that offsets cut out of ids. -/
def cut (offsets ids : Array Nat) : List (List Nat) :=
  (offsets.toList.zip offsets.toList.tail).map fun (lo, hi) => (ids.toList.drop lo).take (hi - lo)

/-- What can be done to a connectivity. Offsets that are not accepted leave it as it is. -/
inductive Step where
  | empty
  | standard
  | withRoom (cells ids : Nat)
  | ofOffsets (offsets ids : Array Nat)
  | add (cell : List Nat)
  | addEach (cell : List Nat)
  | squeeze
  deriving DecidableEq, Repr

namespace Step

def run (cells : Connectivity) : Step → Connectivity
  | .empty => .empty
  | .standard => default
  | .withRoom room idRoom => .withRoom room idRoom
  | .ofOffsets offsets ids =>
    match Connectivity.ofOffsets offsets ids with
    | .ok made => made
    | .error _ => cells
  | .add cell => (cells.add cell).2
  | .addEach cell => (cells.addEach cell).2
  | .squeeze => cells.squeeze

/-- The same on the list of cells. -/
def list (lists : List (List Nat)) : Step → List (List Nat)
  | .empty | .standard | .withRoom _ _ => []
  | .ofOffsets offsets ids => if OffsetsFit offsets ids then cut offsets ids else lists
  | .add cell | .addEach cell => lists ++ [cell]
  | .squeeze => lists

end Step

def after (steps : List Step) : Connectivity := steps.foldl Step.run empty

def listed (steps : List Step) : List (List Nat) := steps.foldl Step.list []

theorem exists_ofOffsets_iff {offsets ids : Array Nat} :
    (∃ cells, ofOffsets offsets ids = .ok cells) ↔ OffsetsFit offsets ids := by
  constructor
  · rintro ⟨cells, accepted⟩
    obtain ⟨rfl, rfl⟩ := ofOffsets_eq_ok_iff.1 accepted
    exact cells.fit
  · exact fun fit => ⟨⟨offsets, ids, fit⟩, ofOffsets_eq_ok_iff.2 ⟨rfl, rfl⟩⟩

theorem segments_eq_cut (offsets ids : Array Nat) :
    segments ids offsets.toList = cut offsets ids := by
  unfold cut
  generalize offsets.toList = bounds
  induction bounds with
  | nil => rfl
  | cons lo rest ih =>
    cases rest with
    | nil => rfl
    | cons hi rest =>
      rw [segments, ih, Array.toList_extract, List.extract_eq_take_drop]
      rfl

/-- Accepted offsets give the cells that they cut. -/
theorem toLists_of_ofOffsets {offsets ids : Array Nat} {cells : Connectivity}
    (accepted : ofOffsets offsets ids = .ok cells) : cells.toLists = cut offsets ids := by
  obtain ⟨rfl, rfl⟩ := ofOffsets_eq_ok_iff.1 accepted
  exact segments_eq_cut _ _

theorem toLists_run (cells : Connectivity) (step : Step) :
    (step.run cells).toLists = step.list cells.toLists := by
  cases step with
  | empty => rfl
  | standard => rfl
  | withRoom room idRoom => rfl
  | ofOffsets offsets ids =>
    simp only [Step.run, Step.list]
    split
    · rename_i made accepted
      rw [if_pos (exists_ofOffsets_iff.1 ⟨made, accepted⟩), toLists_of_ofOffsets accepted]
    · rename_i fault refused
      have unfit : ¬ OffsetsFit offsets ids := fun fit => by
        obtain ⟨made, accepted⟩ := exists_ofOffsets_iff.2 fit
        rw [accepted] at refused
        cases refused
      rw [if_neg unfit]
  | add cell => exact toLists_push cells cell
  | addEach cell =>
    rw [Step.run, addEach_eq_add]
    exact toLists_push cells cell
  | squeeze => rw [Step.run, squeeze_eq, Step.list]

/-- After any steps the cells are those listed. -/
theorem toLists_after (steps : List Step) : (after steps).toLists = listed steps := by
  induction steps using List.reverseRecOn with
  | nil => rfl
  | append_singleton steps step ih =>
    unfold after listed at ih ⊢
    rw [List.foldl_concat, List.foldl_concat, toLists_run, ih]

/-- A connectivity stands for a list of cells: all of its parts are determined by them. -/
structure Represents (cells : Connectivity) (lists : List (List Nat)) : Prop where
  fit : OffsetsFit cells.offsets cells.ids
  offsets_eq : cells.offsets.toList = List.scanl (· + ·) 0 (lists.map List.length)
  /-- The ids are those of the cells, one cell behind the other. -/
  ids_eq : cells.ids.toList = lists.flatten
  size_eq : cells.size = lists.length
  cell?_eq : ∀ i, cells.cell? i = lists[i]?
  toLists_eq : cells.toLists = lists

theorem represents_of_toLists_eq {cells : Connectivity} {lists : List (List Nat)}
    (same : cells.toLists = lists) : cells.Represents lists where
  fit := cells.fit
  offsets_eq := by rw [← same, scanl_length_toLists]
  ids_eq := by rw [← same, flatten_toLists]
  size_eq := by rw [← same, length_toLists]
  cell?_eq := fun i => by rw [cell?_eq_getElem?_toLists, same]
  toLists_eq := same

/-- What holds of a connectivity after some steps. -/
structure Canonical (steps : List Step) : Prop where
  represents : (after steps).Represents (listed steps)
  /-- One more cell gets the next index and stands behind the others, which stay. -/
  add : ∀ cell, ((after steps).add cell).1 = (listed steps).length ∧
    ((after steps).add cell).2.Represents (listed steps ++ [cell]) ∧
    ∀ i < (after steps).size, ((after steps).add cell).2.cell? i = (after steps).cell? i
  addEach : ∀ cell, (after steps).addEach cell = (after steps).add cell
  squeeze : (after steps).squeeze = after steps
  /-- Which offsets are accepted. -/
  accepts : ∀ offsets ids : Array Nat, (∃ cells, ofOffsets offsets ids = .ok cells) ↔
    offsets ≠ #[] ∧ offsets[0]? = some 0 ∧
      (∀ i lo hi, offsets[i]? = some lo → offsets[i + 1]? = some hi → lo ≤ hi) ∧
      offsets.back? = some ids.size
  /-- Accepted offsets give what appending their cells one by one gives. -/
  accepted : ∀ offsets ids cells, ofOffsets offsets ids = .ok cells →
    cells.Represents (cut offsets ids) ∧
      cells = (cut offsets ids).foldl (fun cells cell => (cells.add cell).2) empty
  /-- Equal are those that stand for the same cells. -/
  eq_iff : ∀ cells : Connectivity, after steps = cells ↔ listed steps = cells.toLists

theorem foldl_add_eq_ofLists (lists : List (List Nat)) :
    lists.foldl (fun cells cell => (cells.add cell).2) empty = ofLists lists := rfl

/-- After any steps a connectivity is the one that stands for the listed cells. -/
theorem after_canonical (steps : List Step) : Canonical steps where
  represents := represents_of_toLists_eq (toLists_after steps)
  add cell := by
    have appended : ((after steps).add cell).2.toLists = listed steps ++ [cell] := by
      rw [← toLists_after]
      exact toLists_push _ _
    refine ⟨?_, represents_of_toLists_eq appended, fun i bound => ?_⟩
    · rw [← toLists_after, length_toLists]
      rfl
    · rw [← length_toLists, toLists_after] at bound
      rw [cell?_eq_getElem?_toLists, cell?_eq_getElem?_toLists, appended, toLists_after,
        List.getElem?_append_left bound]
  addEach cell := addEach_eq_add _ cell
  squeeze := squeeze_eq _
  accepts offsets ids := by
    rw [exists_ofOffsets_iff, ← pairwise_le_iff_next]
    constructor
    · intro fit
      refine ⟨?_, fit.starts, fit.ascends, fit.ends⟩
      rintro rfl
      cases fit.starts
    · exact fun given => ⟨given.2.1, given.2.2.1, given.2.2.2⟩
  accepted offsets ids cells accepted := by
    have same := toLists_of_ofOffsets accepted
    refine ⟨represents_of_toLists_eq same, ?_⟩
    rw [foldl_add_eq_ofLists, ← same, ofLists_toLists]
  eq_iff cells := by
    rw [← toLists_after]
    exact ⟨congrArg toLists, eq_of_toLists_eq⟩

end Connectivity
end MeshSkin
