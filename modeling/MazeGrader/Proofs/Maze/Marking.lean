import MazeGrader.Maze.Run
import Mathlib.Data.Finset.Card
import Mathlib.Data.Finset.Insert

/-! Maps with some of their places visited. Marks are only made on clear cells, so where an
agent can be stays the same, and each mark takes one from the clear cells. -/
namespace MazeGrader.Grid

/-- Whether an agent can be at a place: a cell of the map that is no wall. -/
def free (grid : Grid) (place : Int × Int) : Bool := Run.passable (grid.get? place.1 place.2)

def Clear (grid : Grid) (place : Int × Int) : Prop := grid.get? place.1 place.2 = some .clear

instance (grid : Grid) : DecidablePred grid.Clear := fun _ => inferInstanceAs (Decidable (_ = _))

/-- The map with each clear cell among some places visited. -/
def markEach (grid : Grid) (places : Finset (Int × Int)) : Grid :=
  ⟨grid.rows.mapIdx fun r cells => cells.mapIdx fun c cell =>
    if ((r : Int), (c : Int)) ∈ places then visitCell cell else cell⟩

/-- The places on the map. -/
def places (grid : Grid) : Finset (Int × Int) :=
  (grid.rows.mapIdx fun r cells =>
    (List.range cells.length).map fun (c : Nat) => ((r : Int), (c : Int))).flatten.toFinset

@[simp] theorem visitCell_eq_clear (cell : Cell) : visitCell cell ≠ .clear := by
  cases cell <;> decide

@[simp] theorem visitCell_visitCell (cell : Cell) :
    visitCell (visitCell cell) = visitCell cell := by
  cases cell <;> rfl

theorem map_visitCell {cell : Option Cell} (h : cell ≠ some .clear) :
    cell.map visitCell = cell := by
  rcases cell with _ | _ | _ | _
  · rfl
  · exact absurd rfl h
  · rfl
  · rfl

@[simp] theorem passable_visitCell (cell : Option Cell) :
    Run.passable (cell.map visitCell) = Run.passable cell := by
  rcases cell with _ | _ | _ | _ <;> rfl

/-- Maps are equal if they have as many rows and the same cells. -/
theorem ext_at? {left right : Grid} (heights : left.height = right.height)
    (cells : ∀ r c, left.at? r c = right.at? r c) : left = right := by
  obtain ⟨leftRows⟩ := left
  obtain ⟨rightRows⟩ := right
  congr 1
  apply List.ext_getElem heights
  intro r inLeft inRight
  apply List.ext_getElem?
  intro c
  simpa [at?, inLeft, inRight] using cells r c

theorem get?_eq_some {grid : Grid} {row col : Int} {cell : Cell}
    (h : grid.get? row col = some cell) :
    ∃ r c : Nat, row = r ∧ col = c ∧ grid.at? r c = some cell := by
  unfold get? at h
  split at h
  · next inside => exact ⟨_, _, (Int.toNat_of_nonneg inside.1).symm,
      (Int.toNat_of_nonneg inside.2).symm, h⟩
  · cases h

/-- An agent can only be at places whose row and column are not negative. -/
theorem free_eq_true {grid : Grid} {place : Int × Int} (h : grid.free place = true) :
    ∃ r c : Nat, place = ((r : Int), (c : Int)) ∧ Run.passable (grid.at? r c) = true := by
  unfold free at h
  cases found : grid.get? place.1 place.2 with
  | none => simp [found, Run.passable] at h
  | some cell =>
    obtain ⟨r, c, hr, hc, at?⟩ := get?_eq_some found
    exact ⟨r, c, Prod.ext hr hc, by rwa [at?, ← found]⟩

@[simp] theorem free_ofNat (grid : Grid) (row col : Nat) :
    grid.free ((row : Int), (col : Int)) = Run.passable (grid.at? row col) := by
  simp [free]

/-! ### A single mark -/

/-- Visiting a cell marks it, also when it was not clear and the mark changes nothing. -/
theorem visit_eq (grid : Grid) (row col : Nat) :
    grid.visit row col = (grid.mark row col, decide (grid.at? row col = some .clear)) := by
  by_cases clear : grid.at? row col = some .clear
  · simp [visit, clear]
  · have same : grid = grid.mark row col := by
      apply ext_at? (height_mark ..).symm
      intro r c
      rw [at?_mark]
      split
      · next here =>
        obtain ⟨rfl, rfl⟩ := here
        exact (map_visitCell clear).symm
      · rfl
    simp [visit, clear, ← same]

/-- Only the first mark of a clear cell takes one from the count. -/
theorem numClear_mark (grid : Grid) (row col : Nat) :
    (grid.mark row col).numClear + (if grid.at? row col = some .clear then 1 else 0) =
      grid.numClear := by
  by_cases clear : grid.at? row col = some .clear
  · obtain ⟨cells, atRow, atCol⟩ := Option.bind_eq_some_iff.1 clear
    obtain ⟨inRows, rfl⟩ := List.getElem?_eq_some_iff.1 atRow
    obtain ⟨inCells, isClear⟩ := List.getElem?_eq_some_iff.1 atCol
    -- The count is taken apart around the one cell that changes, in its row and in the map.
    obtain ⟨above, cells, below, rows, height, changed⟩ := List.exists_of_modify
      (fun cells => cells.modify col visitCell) inRows
    obtain rfl : grid.rows[row] = cells := by simp [rows, ← height]
    obtain ⟨left, cell, right, split, width, marked⟩ := List.exists_of_modify visitCell inCells
    obtain rfl : cell = .clear := by rw [← isClear]; simp [split, ← width]
    rw [if_pos clear]
    unfold mark numClear
    rw [changed, marked]
    conv_rhs => rw [rows, split]
    simp [visitCell]
    omega
  · have same := congrArg Prod.fst (visit_eq grid row col)
    simp only [visit, clear, if_false] at same
    simp [clear, ← same]

theorem numClear_mark_eq (grid : Grid) (row col : Nat) :
    (grid.mark row col).numClear =
      if grid.at? row col = some .clear then grid.numClear - 1 else grid.numClear := by
  have lost := grid.numClear_mark row col
  split
  · next clear =>
    rw [if_pos clear] at lost
    omega
  · next other =>
    rw [if_neg other] at lost
    omega

theorem numClear_eq_zero_iff (grid : Grid) :
    grid.numClear = 0 ↔ ∀ row col, grid.at? row col ≠ some .clear := by
  unfold numClear at?
  rw [List.count_eq_zero]
  constructor
  · intro absent row col clear
    obtain ⟨cells, atRow, atCol⟩ := Option.bind_eq_some_iff.1 clear
    exact absent (List.mem_flatten.2
      ⟨cells, List.mem_of_getElem? atRow, List.mem_of_getElem? atCol⟩)
  · intro absent clear
    obtain ⟨cells, inRows, inCells⟩ := List.mem_flatten.1 clear
    obtain ⟨row, atRow⟩ := List.mem_iff_getElem?.1 inRows
    obtain ⟨col, atCol⟩ := List.mem_iff_getElem?.1 inCells
    exact absent row col (by simp [atRow, atCol])

/-- A first visit finds a cell that is counted. -/
theorem numClear_pos_of_visit {grid : Grid} {row col : Nat}
    (first : (grid.visit row col).2 = true) : 0 < grid.numClear := by
  rw [visit_eq, decide_eq_true_eq] at first
  exact Nat.pos_of_ne_zero fun absent => grid.numClear_eq_zero_iff.1 absent row col first

/-- Where an agent comes to, the cell is visited. -/
theorem at?_mark_self {grid : Grid} {row col : Nat}
    (placed : Run.passable (grid.at? row col) = true) :
    (grid.mark row col).at? row col = some .visited := by
  rw [at?_mark, if_pos ⟨rfl, rfl⟩]
  cases found : grid.at? row col with
  | none =>
    rw [found] at placed
    cases placed
  | some cell =>
    rw [found] at placed
    cases cell with
    | clear => rfl
    | visited => rfl
    | wall => cases placed

/-! ### What marks change -/

def widths (grid : Grid) : List Nat := grid.rows.map List.length

/-- The other map has the same shape, and at most some clear cells are visited. -/
structure MarkedAs (grid marked : Grid) : Prop where
  widths : marked.widths = grid.widths
  cells : ∀ r c, marked.at? r c = grid.at? r c ∨
    grid.at? r c = some .clear ∧ marked.at? r c = some .visited

/-- Each cell is changed, depending on where it is. -/
def mapCells (grid : Grid) (change : Nat → Nat → Cell → Cell) : Grid :=
  ⟨grid.rows.mapIdx fun r cells => cells.mapIdx (change r)⟩

theorem at?_mapCells (grid : Grid) (change : Nat → Nat → Cell → Cell) (r c : Nat) :
    (grid.mapCells change).at? r c = (grid.at? r c).map (change r c) := by
  cases row : grid.rows[r]? with
  | none => simp [mapCells, at?, row]
  | some cells => simp [mapCells, at?, row]

theorem widths_mapCells (grid : Grid) (change : Nat → Nat → Cell → Cell) :
    (grid.mapCells change).widths = grid.widths := by
  apply List.ext_getElem?
  intro r
  simp only [widths, mapCells, List.getElem?_map, List.getElem?_mapIdx]
  cases grid.rows[r]? with
  | none => rfl
  | some cells => simp

theorem widths_mark (grid : Grid) (row col : Nat) : (grid.mark row col).widths = grid.widths := by
  apply List.ext_getElem?
  intro r
  simp only [Grid.widths, mark, List.getElem?_map, List.getElem?_modify]
  cases grid.rows[r]? with
  | none => rfl
  | some cells => by_cases here : row = r <;> simp [here]

namespace MarkedAs

variable {grid marked : Grid}

theorem refl (grid : Grid) : grid.MarkedAs grid := ⟨rfl, fun _ _ => .inl rfl⟩

theorem mark (sofar : grid.MarkedAs marked) (row col : Nat) :
    grid.MarkedAs (marked.mark row col) := by
  refine ⟨(widths_mark ..).trans sofar.widths, fun r c => ?_⟩
  rw [at?_mark]
  split
  · rcases sofar.cells r c with same | ⟨clear, visited⟩
    · rw [same]
      rcases grid.at? r c with _ | _ | _ | _
      · exact .inl rfl
      · exact .inr ⟨rfl, rfl⟩
      · exact .inl rfl
      · exact .inl rfl
    · exact .inr ⟨clear, by rw [visited]; rfl⟩
  · exact sofar.cells r c

theorem height (sofar : grid.MarkedAs marked) : marked.height = grid.height := by
  have lengths := congrArg List.length sofar.widths
  simpa only [Grid.widths, Grid.height, List.length_map] using lengths

theorem wall_iff (sofar : grid.MarkedAs marked) (r c : Nat) :
    marked.at? r c = some .wall ↔ grid.at? r c = some .wall := by
  rcases sofar.cells r c with same | ⟨clear, visited⟩
  · rw [same]
  · rw [clear, visited]
    exact ⟨fun wall => (nomatch wall), fun wall => (nomatch wall)⟩

theorem of_ne (sofar : grid.MarkedAs marked) {r c : Nat} (changed : marked.at? r c ≠ grid.at? r c) :
    grid.at? r c = some .clear ∧ marked.at? r c = some .visited :=
  (sofar.cells r c).resolve_left changed

end MarkedAs

/-! ### Marks at many places -/

theorem at?_markEach (grid : Grid) (places : Finset (Int × Int)) (r c : Nat) :
    (grid.markEach places).at? r c =
      if ((r : Int), (c : Int)) ∈ places then (grid.at? r c).map visitCell else grid.at? r c := by
  refine (at?_mapCells grid _ r c).trans ?_
  by_cases member : ((r : Int), (c : Int)) ∈ places <;> simp [member]

theorem get?_markEach (grid : Grid) (places : Finset (Int × Int)) (row col : Int) :
    (grid.markEach places).get? row col =
      if (row, col) ∈ places then (grid.get? row col).map visitCell else grid.get? row col := by
  unfold get?
  split
  · next inside =>
    rw [at?_markEach, Int.toNat_of_nonneg inside.1, Int.toNat_of_nonneg inside.2]
  · simp

@[simp] theorem height_markEach (grid : Grid) (places : Finset (Int × Int)) :
    (grid.markEach places).height = grid.height := by
  simp [markEach, height]

theorem widths_markEach (grid : Grid) (places : Finset (Int × Int)) :
    (grid.markEach places).widths = grid.widths := widths_mapCells grid _

@[simp] theorem markEach_empty (grid : Grid) : grid.markEach ∅ = grid :=
  ext_at? (height_markEach ..) fun r c => by simp [at?_markEach]

theorem markEach_insert (grid : Grid) (places : Finset (Int × Int)) (row col : Nat) :
    grid.markEach (insert ((row : Int), (col : Int)) places) =
      (grid.markEach places).mark row col := by
  apply ext_at?
  · simp [height_mark]
  intro r c
  simp only [at?_mark, at?_markEach, Finset.mem_insert, Prod.mk.injEq, Int.ofNat_inj]
  by_cases here : r = row ∧ c = col
  · obtain ⟨rfl, rfl⟩ := here
    by_cases before : ((r : Int), (c : Int)) ∈ places <;>
      simp [before, Function.comp_def]
  · simp [here]

/-- A mark off the map or on a cell that is not clear is not seen. -/
theorem markEach_insert_of_ne {grid : Grid} {place : Int × Int} (places : Finset (Int × Int))
    (h : ¬grid.Clear place) :
    grid.markEach (insert place places) = grid.markEach places := by
  apply ext_at?
  · simp
  intro r c
  rw [at?_markEach, at?_markEach]
  by_cases here : ((r : Int), (c : Int)) = place
  · subst here
    have same := map_visitCell (by simpa [Clear] using h)
    simp [same]
  · simp [here]

@[simp] theorem free_markEach (grid : Grid) (places : Finset (Int × Int)) :
    (grid.markEach places).free = grid.free := by
  funext place
  unfold free
  rw [get?_markEach]
  split <;> simp

/-- The clear cells among the places are those that are lost. -/
theorem numClear_markEach (grid : Grid) (places : Finset (Int × Int)) :
    (grid.markEach places).numClear + (places.filter grid.Clear).card = grid.numClear := by
  induction places using Finset.induction_on with
  | empty => simp
  | insert place places fresh ih =>
    by_cases clear : grid.Clear place
    · obtain ⟨r, c, hr, hc, at?⟩ := get?_eq_some clear
      obtain rfl : place = ((r : Int), (c : Int)) := Prod.ext hr hc
      have lost := numClear_mark (grid.markEach places) r c
      rw [at?_markEach, if_neg fresh, if_pos at?] at lost
      rw [Finset.filter_insert, if_pos clear, Finset.card_insert_of_notMem (by simp [fresh]),
        markEach_insert]
      omega
    · rw [Finset.filter_insert, if_neg clear, markEach_insert_of_ne places clear, ih]

theorem numClear_markEach_eq_zero_iff (grid : Grid) (places : Finset (Int × Int)) :
    (grid.markEach places).numClear = 0 ↔ ∀ place, grid.Clear place → place ∈ places := by
  rw [numClear_eq_zero_iff]
  constructor
  · intro absent place clear
    obtain ⟨r, c, hr, hc, at?⟩ := get?_eq_some clear
    obtain rfl : place = ((r : Int), (c : Int)) := Prod.ext hr hc
    by_contra missing
    exact absent r c (by rw [at?_markEach, if_neg missing, at?])
  · intro all r c
    rw [at?_markEach]
    split
    · simp
    · next missing => exact fun clear => missing (all _ (by simpa [Clear] using clear))

/-! ### The places on the map -/

theorem mem_places {grid : Grid} {r c : Nat} (h : Run.passable (grid.at? r c) = true) :
    ((r : Int), (c : Int)) ∈ grid.places := by
  cases found : grid.at? r c with
  | none => simp [found, Run.passable] at h
  | some cell =>
    obtain ⟨cells, atRow, atCol⟩ := Option.bind_eq_some_iff.1 found
    obtain ⟨inRows, rfl⟩ := List.getElem?_eq_some_iff.1 atRow
    obtain ⟨inCells, -⟩ := List.getElem?_eq_some_iff.1 atCol
    simp only [places, List.mem_toFinset, List.mem_flatten, List.mem_mapIdx]
    exact ⟨_, ⟨r, inRows, rfl⟩, List.mem_map.2 ⟨c, List.mem_range.2 inCells, rfl⟩⟩

theorem card_places_le (grid : Grid) : grid.places.card ≤ grid.numCells := by
  refine (List.toFinset_card_le _).trans (le_of_eq ?_)
  simp only [numCells, List.length_flatten, List.mapIdx_eq_zipIdx_map, List.map_map]
  conv_rhs => rw [← List.zipIdx_map_fst 0 grid.rows, List.map_map]
  simp [Function.comp_def]

end MazeGrader.Grid
