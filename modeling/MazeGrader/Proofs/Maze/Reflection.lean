import MazeGrader.Maze.Drawing
import MazeGrader.Proofs.Maze.Simulation

/-! Reflected maps. When left and right, or top and bottom, change places in the rules and on a
map where all rows are equally long, then a simulation comes to the mirror image of what it came
to before. -/
namespace MazeGrader

open Walk (Config after trail Covers FailsAt)

/-! ### Maps as rectangles -/

namespace Grid

/-- The number of rows, and of columns in the first of them. -/
def size (grid : Grid) : MapShape := ⟨grid.height, grid.widths.headD 0⟩

def Rectangular (grid : Grid) : Prop := ∀ width ∈ grid.widths, width = grid.size.cols

variable {grid : Grid}

theorem Rectangular.length_eq (rectangular : grid.Rectangular) {cells : List Cell}
    (member : cells ∈ grid.rows) : cells.length = grid.size.cols :=
  rectangular _ (List.mem_map_of_mem member)

/-- Also a map of one row, whose width is not checked. -/
theorem rectangular_of_parse {shape : MapShape} {source : String}
    (parsed : parse shape source = .ok grid) : grid.Rectangular := by
  obtain ⟨rfl, -, even⟩ := checkShape_eq_ok_iff.1 parsed
  generalize ofLines (Text.lines source.toList) = grid at even
  obtain ⟨rows⟩ := grid
  intro width member
  cases rows with
  | nil => cases member
  | cons first rest =>
    cases rest with
    | nil => simpa [widths, size] using member
    | cons second rest =>
      have several : 1 < (Grid.mk (first :: second :: rest)).height := by simp [height]
      obtain ⟨cells, inside, rfl⟩ := List.mem_map.1 member
      rw [even several cells inside]
      exact (even several first List.mem_cons_self).symm

/-- There are cells only inside the rectangle. -/
theorem Rectangular.get?_eq_none (rectangular : grid.Rectangular) {row col : Int}
    (outside : ¬(0 ≤ row ∧ row < grid.size.rows ∧ 0 ≤ col ∧ col < grid.size.cols)) :
    grid.get? row col = none := by
  cases found : grid.get? row col with
  | none => rfl
  | some cell =>
    obtain ⟨r, c, rfl, rfl, at?⟩ := get?_eq_some found
    obtain ⟨cells, atRow, atCol⟩ := Option.bind_eq_some_iff.1 at?
    obtain ⟨inRows, -⟩ := List.getElem?_eq_some_iff.1 atRow
    obtain ⟨inCells, -⟩ := List.getElem?_eq_some_iff.1 atCol
    rw [rectangular.length_eq (List.mem_of_getElem? atRow)] at inCells
    refine absurd ?_ outside
    simp only [size, height] at inCells ⊢
    omega

end Grid

/-- Left and right change places, or top and bottom. -/
inductive Reflection where
  | leftRight
  | topBottom
  deriving DecidableEq, Repr

namespace Reflection

/-! ### Reflected rules -/

def direction : Reflection → Direction → Direction
  | leftRight, .east => .west
  | leftRight, .west => .east
  | topBottom, .north => .south
  | topBottom, .south => .north
  | _, other => other

def surroundings : Reflection → Surroundings → Surroundings
  | leftRight, s => ⟨s.north, s.west, s.east, s.south⟩
  | topBottom, s => ⟨s.south, s.east, s.west, s.north⟩

def transition (m : Reflection) (t : Transition) : Transition := ⟨m.direction t.direction, t.next⟩

/-- What was written under some surroundings stands under the reflected ones. -/
def row (m : Reflection) (row : RuleRow) : RuleRow :=
  Vector.ofFn fun i => row[(m.surroundings (.ofIndex i)).index].map m.transition

def rules (m : Reflection) (table : RuleTable) : RuleTable where
  rows := table.rows.map fun line => (line.1, m.row line.2)
  ascending := List.pairwise_map.2 (table.ascending.imp id)

variable (m : Reflection)

@[simp] theorem surroundings_surroundings (s : Surroundings) :
    m.surroundings (m.surroundings s) = s := by
  cases m <;> rfl

theorem states_rules (table : RuleTable) : (m.rules table).states = table.states := by
  simp [rules, RuleTable.states, Function.comp_def]

theorem lookup_rules (table : RuleTable) (state : State) (s : Surroundings) :
    (m.rules table).lookup state (m.surroundings s) =
      (table.lookup state s).map m.transition := by
  unfold RuleTable.lookup RuleTable.row? rules
  rw [Entries.find?_map]
  cases Entries.find? state table.rows with
  | none => rfl
  | some row => simp [Reflection.row, Surroundings.ofIndex_index]

/-! ### Reflected places and maps -/

def place (size : MapShape) : Int × Int → Int × Int :=
  match m with
  | leftRight => fun place => (place.1, size.cols - 1 - place.2)
  | topBottom => fun place => (size.rows - 1 - place.1, place.2)

def grid : Reflection → Grid → Grid
  | leftRight, grid => ⟨grid.rows.map List.reverse⟩
  | topBottom, grid => ⟨grid.rows.reverse⟩

@[simp] theorem place_place (size : MapShape) (place : Int × Int) :
    m.place size (m.place size place) = place := by
  cases m <;> simp [Reflection.place]

/-- The neighbour in the reflected direction is the reflected neighbour. -/
theorem target_place (size : MapShape) (d : Direction) (place : Int × Int) :
    (m.direction d).target (m.place size place) = m.place size (d.target place) := by
  cases m <;> cases d <;> simp [direction, Reflection.place, Direction.target, Direction.offset] <;>
    omega

theorem numCells_grid (grid : Grid) : (m.grid grid).numCells = grid.numCells := by
  cases m <;> simp [Reflection.grid, Grid.numCells, Function.comp_def]

theorem numClear_grid (grid : Grid) : (m.grid grid).numClear = grid.numClear := by
  cases m <;> simp [Reflection.grid, Grid.numClear, List.count_flatten, Function.comp_def]

variable {m} {board : Grid}

theorem widths_grid (board : Grid) : (m.grid board).widths =
    match m with
    | leftRight => board.widths
    | topBottom => board.widths.reverse := by
  cases m <;> simp [Reflection.grid, Grid.widths, Function.comp_def]

theorem size_grid (rectangular : board.Rectangular) : (m.grid board).size = board.size := by
  cases m with
  | leftRight => simp [Reflection.grid, Grid.size, Grid.height, Grid.widths, Function.comp_def]
  | topBottom =>
    have widths := widths_grid (m := topBottom) board
    have height : (topBottom.grid board).height = board.height := List.length_reverse
    unfold Grid.size
    rw [height, widths]
    congr 1
    -- The last row is now the first one, and is as wide.
    dsimp only
    cases found : board.widths.reverse with
    | nil => rw [List.reverse_eq_nil_iff.1 found]
    | cons width others =>
      exact rectangular width (List.mem_reverse.1 (found ▸ List.mem_cons_self))

theorem rectangular_grid (rectangular : board.Rectangular) : (m.grid board).Rectangular := by
  intro width member
  rw [size_grid rectangular]
  rw [widths_grid] at member
  cases m with
  | leftRight => exact rectangular width member
  | topBottom => exact rectangular width (List.mem_reverse.1 member)

theorem at?_leftRight (rectangular : board.Rectangular) {c : Nat} (inside : c < board.size.cols)
    (r : Nat) : (leftRight.grid board).at? r (board.size.cols - 1 - c) = board.at? r c := by
  unfold Grid.at? Reflection.grid
  rw [List.getElem?_map]
  cases atRow : board.rows[r]? with
  | none => rfl
  | some cells =>
    have width := rectangular.length_eq (List.mem_of_getElem? atRow)
    simp only [Option.map_some, Option.bind_some]
    rw [List.getElem?_reverse (by omega), width]
    congr 1
    omega

theorem at?_topBottom {r : Nat} (inside : r < board.size.rows) (c : Nat) :
    (topBottom.grid board).at? (board.size.rows - 1 - r) c = board.at? r c := by
  unfold Grid.at? Reflection.grid
  unfold Grid.size Grid.height at inside ⊢
  dsimp only at inside ⊢
  rw [List.getElem?_reverse (by omega)]
  congr 2
  omega

/-- At the reflected place is the cell that was at the place, also beyond the map. -/
theorem get?_grid (rectangular : board.Rectangular) (place : Int × Int) :
    (m.grid board).get? (m.place board.size place).1 (m.place board.size place).2 =
      board.get? place.1 place.2 := by
  obtain ⟨row, col⟩ := place
  by_cases inside : 0 ≤ row ∧ row < board.size.rows ∧ 0 ≤ col ∧ col < board.size.cols
  · obtain ⟨r, rfl⟩ := Int.eq_ofNat_of_zero_le inside.1
    obtain ⟨c, rfl⟩ := Int.eq_ofNat_of_zero_le inside.2.2.1
    cases m with
    | leftRight =>
      have column : (board.size.cols : Int) - 1 - c = (board.size.cols - 1 - c : Nat) := by omega
      simp only [Reflection.place, column, Grid.get?_ofNat]
      exact at?_leftRight rectangular (by omega) r
    | topBottom =>
      have line : (board.size.rows : Int) - 1 - r = (board.size.rows - 1 - r : Nat) := by omega
      simp only [Reflection.place, line, Grid.get?_ofNat]
      exact at?_topBottom (by omega) c
  · rw [rectangular.get?_eq_none inside]
    apply (rectangular_grid rectangular).get?_eq_none
    rw [size_grid rectangular]
    cases m <;> simp only [Reflection.place] <;> omega

theorem free_grid (rectangular : board.Rectangular) (place : Int × Int) :
    (m.grid board).free (m.place board.size place) = board.free place := by
  unfold Grid.free
  rw [get?_grid rectangular]

/-- Maps that are as wide and as high and have the same cells at reflected places are equal. -/
theorem grid_eq {other : Grid} (rectangular : board.Rectangular)
    (heights : other.height = board.height)
    (cells : ∀ place : Int × Int,
      other.get? (m.place board.size place).1 (m.place board.size place).2 =
        board.get? place.1 place.2) : m.grid board = other := by
  apply Grid.ext_at?
  · rw [heights]
    cases m <;> simp [Reflection.grid, Grid.height]
  · intro r c
    have reflected := cells (m.place board.size (r, c))
    rw [← get?_grid (m := m) rectangular, place_place] at reflected
    simpa using reflected.symm

theorem grid_markEach (rectangular : board.Rectangular) (places : Finset (Int × Int)) :
    m.grid (board.markEach places) =
      (m.grid board).markEach (places.image (m.place board.size)) := by
  have widths := board.widths_markEach places
  have size : (board.markEach places).size = board.size := by
    unfold Grid.size
    rw [Grid.height_markEach, widths]
  have marked : (board.markEach places).Rectangular := by
    unfold Grid.Rectangular
    rw [widths, size]
    exact rectangular
  have apart : Function.Injective (m.place board.size) :=
    Function.LeftInverse.injective (place_place m board.size)
  apply grid_eq marked
  · rw [Grid.height_markEach, Grid.height_markEach]
    cases m <;> simp [Reflection.grid, Grid.height]
  · intro place
    rw [size, Grid.get?_markEach, Grid.get?_markEach, get?_grid rectangular]
    simp only [Prod.mk.eta, Finset.mem_image, apart.eq_iff, exists_eq_right]

/-! ### Reflected walks -/

def config (m : Reflection) (size : MapShape) (c : Config) : Config :=
  ⟨c.state, m.place size c.place⟩

/-- Positions of walls are reflected, also those beyond the map. -/
def fault (m : Reflection) (size : MapShape) : Fault → Fault
  | .noRule state s => .noRule state (m.surroundings s)
  | .blocked row col => .blocked (m.place size (row, col)).1 (m.place size (row, col)).2
  | other => other

section Walk

variable {rules : RuleTable} {size : MapShape} {free mirrored : Int × Int → Bool} {c d : Config}
  {n : Nat}

theorem surroundings_place (same : ∀ place, mirrored (m.place size place) = free place)
    (place : Int × Int) :
    Walk.surroundings mirrored (m.place size place) =
      m.surroundings (Walk.surroundings free place) := by
  have neighbour : ∀ d, Walk.neighbour mirrored (m.place size place) (m.direction d) =
      Walk.neighbour free place d := by
    intro d
    unfold Walk.neighbour
    rw [target_place, same]
  have north := neighbour .north
  have east := neighbour .east
  have west := neighbour .west
  have south := neighbour .south
  cases m <;> simp only [direction] at north east west south <;>
    simp only [Walk.surroundings, Reflection.surroundings, north, east, west, south]

/-- Each step is reflected, also one that fails. -/
theorem step_config (same : ∀ place, mirrored (m.place size place) = free place) (c : Config) :
    Walk.step (m.rules rules) mirrored (m.config size c) =
      ((Walk.step rules free c).map (m.config size)).mapError (m.fault size) := by
  have around := surroundings_place same c.place
  unfold Walk.step
  simp only [config, around, lookup_rules]
  cases rules.lookup c.state (Walk.surroundings free c.place) with
  | none => rfl
  | some t =>
    have ahead : (m.transition t).direction.target (m.place size c.place) =
        m.place size (t.direction.target c.place) := target_place m size t.direction c.place
    simp only [Option.map_some, ahead, same]
    split <;> rfl

theorem after_config (same : ∀ place, mirrored (m.place size place) = free place) (c : Config)
    (n : Nat) :
    after (m.rules rules) mirrored (m.config size c) n =
      ((after rules free c n).map (m.config size)).mapError (m.fault size) := by
  induction n with
  | zero => rfl
  | succ n ih =>
    unfold after
    rw [ih]
    cases after rules free c n with
    | ok d => exact step_config same d
    | error fault => rfl

theorem after_config_of_ok (same : ∀ place, mirrored (m.place size place) = free place)
    (reached : after rules free c n = .ok d) :
    after (m.rules rules) mirrored (m.config size c) n = .ok (m.config size d) := by
  rw [after_config same, reached]
  rfl

theorem trail_config (same : ∀ place, mirrored (m.place size place) = free place) (c : Config)
    (n : Nat) :
    trail (m.rules rules) mirrored (m.config size c) n =
      (trail rules free c n).image (m.place size) := by
  have placeAfter : Walk.placeAfter (m.rules rules) mirrored (m.config size c) =
      fun i => (Walk.placeAfter rules free c i).map (m.place size) := by
    funext i
    unfold Walk.placeAfter
    rw [after_config same]
    cases after rules free c i <;> rfl
  unfold trail
  rw [placeAfter, ← List.map_filterMap]
  ext place
  simp only [List.mem_toFinset, List.mem_map, Finset.mem_image]

theorem failsAt_config {fault : Fault}
    (same : ∀ place, mirrored (m.place size place) = free place)
    (fails : FailsAt rules free c n fault) :
    FailsAt (m.rules rules) mirrored (m.config size c) n (m.fault size fault) := by
  obtain ⟨i, d, rfl, reached, stops⟩ := fails
  refine ⟨i, m.config size d, rfl, after_config_of_ok same reached, ?_⟩
  rw [step_config same, stops]
  rfl

end Walk

/-! ### Reflected runs -/

def position (m : Reflection) (size : MapShape) (position : Nat × Nat) : Nat × Nat :=
  match m with
  | leftRight => (position.1, size.cols - 1 - position.2)
  | topBottom => (size.rows - 1 - position.1, position.2)

/-- The map and the place of the agent are reflected. -/
def outcome (m : Reflection) (size : MapShape) (outcome : Outcome) : Outcome where
  coverage := outcome.coverage
  steps := outcome.steps
  hitCap := outcome.hitCap
  position := m.position size outcome.position
  grid := m.grid outcome.grid

section Run

variable {rules : RuleTable} {c d : Config} {n : Nat}

theorem place_position (rectangular : board.Rectangular) (position : Nat × Nat)
    (placed : Run.passable (board.at? position.1 position.2) = true) :
    m.place board.size ((position.1 : Int), (position.2 : Int)) =
      (((m.position board.size position).1 : Int), ((m.position board.size position).2 : Int)) := by
  obtain ⟨row, col⟩ := position
  have inside : (row : Int) < board.size.rows ∧ (col : Int) < board.size.cols := by
    by_contra outside
    have missing : board.get? (row : Int) (col : Int) = none :=
      rectangular.get?_eq_none (by omega)
    rw [Grid.get?_ofNat] at missing
    rw [missing] at placed
    cases placed
  cases m with
  | leftRight =>
    have column : (board.size.cols : Int) - 1 - col = (board.size.cols - 1 - col : Nat) := by omega
    exact Prod.ext rfl column
  | topBottom =>
    have line : (board.size.rows : Int) - 1 - row = (board.size.rows - 1 - row : Nat) := by omega
    exact Prod.ext line rfl

/-- The agent is at the reflected place, read as a position. -/
theorem position_toNat (rectangular : board.Rectangular) (inside : board.free c.place = true) :
    ((m.config board.size c).place.1.toNat, (m.config board.size c).place.2.toNat) =
      m.position board.size (c.place.1.toNat, c.place.2.toNat) := by
  obtain ⟨row, col, here, placed⟩ := Grid.free_eq_true inside
  have reflected := place_position (m := m) rectangular (row, col) placed
  unfold config
  rw [here]
  dsimp only at reflected ⊢
  rw [reflected]
  rfl

theorem covers_config_iff (rules : RuleTable) (rectangular : board.Rectangular) (c : Config)
    (n : Nat) :
    Covers (m.rules rules) (m.grid board).free (m.config board.size c) (m.grid board).Clear n ↔
      Covers rules board.free c board.Clear n := by
  have same := free_grid (m := m) rectangular
  cases reached : after rules board.free c n with
  | ok d =>
    rw [Run.covers_iff reached, Run.covers_iff (after_config_of_ok same reached),
      trail_config same, ← grid_markEach rectangular, numClear_grid]
  | error fault =>
    have stopped : after (m.rules rules) (m.grid board).free (m.config board.size c) n =
        .error (m.fault board.size fault) := by
      rw [after_config same, reached]
      rfl
    constructor
    · rintro ⟨⟨d, covers⟩, -⟩
      rw [stopped] at covers
      cases covers
    · rintro ⟨⟨d, covers⟩, -⟩
      rw [reached] at covers
      cases covers

theorem completed_config (rectangular : board.Rectangular) (inside : board.free d.place = true) :
    Run.completed (m.rules rules) (m.grid board) (m.config board.size c) (m.config board.size d) n =
      m.outcome board.size (Run.completed rules board c d n) := by
  unfold Run.completed outcome
  rw [position_toNat rectangular inside, trail_config (free_grid rectangular),
    grid_markEach rectangular]

theorem cutShort_config (rectangular : board.Rectangular) (inside : board.free d.place = true) :
    Run.cutShort (m.rules rules) (m.grid board) (m.config board.size c) (m.config board.size d) n =
      m.outcome board.size (Run.cutShort rules board c d n) := by
  -- As many clear cells are left, so as many are lost.
  have lost := board.numClear_markEach (trail rules board.free c n)
  have lostToo := (m.grid board).numClear_markEach
    ((trail rules board.free c n).image (m.place board.size))
  rw [← grid_markEach rectangular, numClear_grid, numClear_grid] at lostToo
  have visited : (((trail rules board.free c n).image (m.place board.size)).filter
      (m.grid board).Clear).card = ((trail rules board.free c n).filter board.Clear).card := by
    omega
  unfold Run.cutShort outcome
  rw [position_toNat rectangular inside, trail_config (free_grid rectangular), visited,
    grid_markEach rectangular, numClear_grid]

theorem finish_config (rules : RuleTable) (rectangular : board.Rectangular)
    (inside : board.free c.place = true) (cap : Nat) :
    (Run.origin (m.grid board) (m.config board.size c)).finish (m.rules rules) cap =
      (((Run.origin board c).finish rules cap).map (m.outcome board.size)).mapError
        (m.fault board.size) := by
  have same := free_grid (m := m) rectangular
  have mirrored : (m.grid board).free (m.config board.size c).place = true :=
    (same c.place).trans inside
  have covers := covers_config_iff (m := m) rules rectangular c
  -- The two walks cover their clear cells, fail or go on together.
  rcases Walk.ends_within board.Clear cap with
    ⟨k, le, least⟩ | ⟨left, ⟨j, le, fault, fails⟩ | ⟨d, reached⟩⟩
  · obtain ⟨⟨d, reached⟩, -⟩ := least.1
    have leastToo : IsLeast {i | Covers (m.rules rules) (m.grid board).free
        (m.config board.size c) (m.grid board).Clear i} k := by simpa only [covers] using least
    rw [Run.finish_of_covers inside least le reached,
      Run.finish_of_covers mirrored leastToo le (after_config_of_ok same reached),
      completed_config rectangular (Walk.free_after inside reached)]
    rfl
  · have before : ∀ i < j, ¬Covers rules board.free c board.Clear i :=
      fun i before => left i (before.le.trans le)
    rw [Run.finish_of_failsAt inside before fails le,
      Run.finish_of_failsAt mirrored (fun i soon => mt (covers i).1 (before i soon))
        (failsAt_config same fails) le]
    rfl
  · rw [Run.finish_of_left inside left reached,
      Run.finish_of_left mirrored (fun i le => mt (covers i).1 (left i le))
        (after_config_of_ok same reached),
      cutShort_config rectangular (Walk.free_after inside reached)]
    rfl

end Run

theorem defaultCap_grid (rules : RuleTable) (board : Grid) :
    defaultCap (m.rules rules) (m.grid board) = defaultCap rules board := by
  unfold defaultCap
  rw [numCells_grid]
  simp [RuleTable.numStates, Reflection.rules]

end Reflection

/-- On the mirror image of a map that was read from a file, rules with the same directions
exchanged come to the mirror image of what they came to: the same coverage, steps and state,
with surroundings, places and the final map reflected. -/
theorem simulate_reflected (m : Reflection) (rules : RuleTable) {shape : MapShape}
    {source : String} {board : Grid} (parsed : Grid.parse shape source = .ok board)
    (position : Nat × Nat) (placed : Run.passable (board.at? position.1 position.2) = true)
    (cap : Option UInt64) :
    (m.rules rules).states = rules.states ∧
    (∀ state s, (m.rules rules).lookup state (m.surroundings s) =
      (rules.lookup state s).map m.transition) ∧
    (∀ place : Int × Int,
      (m.grid board).get? (m.place board.size place).1 (m.place board.size place).2 =
        board.get? place.1 place.2) ∧
    simulate (m.rules rules) (m.grid board) (m.position board.size position) cap =
      ((simulate rules board position cap).map (m.outcome board.size)).mapError
        (m.fault board.size) := by
  have rectangular := Grid.rectangular_of_parse parsed
  refine ⟨m.states_rules rules, m.lookup_rules rules, Reflection.get?_grid rectangular, ?_⟩
  have place := Reflection.place_position (m := m) rectangular position placed
  have start : m.config board.size (Walk.start position) =
      Walk.start (m.position board.size position) := congrArg (Config.mk 0) place
  have placedToo : Run.passable ((m.grid board).at? (m.position board.size position).1
      (m.position board.size position).2) = true := by
    have free := Reflection.free_grid (m := m) rectangular
      ((position.1 : Int), (position.2 : Int))
    rwa [place, Grid.free_ofNat, Grid.free_ofNat, placed] at free
  rw [simulate_eq rules cap placed, simulate_eq _ cap placedToo, Reflection.defaultCap_grid,
    ← start]
  exact Reflection.finish_config rules rectangular (free_start placed) _

/-- A corridor that is walked to its other end, and its wall in the south. -/
theorem simulate_reflected_corridor :
    Grid.parse ⟨1, 7⟩ "  " = .ok .corridor ∧ Run.passable (Grid.corridor.at? 0 0) = true ∧
    simulate (Reflection.leftRight.rules .eastward) (Reflection.leftRight.grid .corridor) (0, 1)
      none = .ok ⟨1, 1, false, (0, 0), ⟨[[.visited, .visited]]⟩⟩ ∧
    simulate (Reflection.topBottom.rules .northward) (Reflection.topBottom.grid .corridor) (0, 0)
      (some 9) = .error (.blocked 1 0) := by
  have parsed : Grid.parse ⟨1, 7⟩ "  " = .ok .corridor := by decide +kernel
  have placed : Run.passable (Grid.corridor.at? 0 0) = true := by decide
  have walked : simulate .eastward .corridor (0, 0) none =
      .ok ⟨1, 1, false, (0, 1), ⟨[[.visited, .visited]]⟩⟩ := by decide +kernel
  have stopped : simulate .northward .corridor (0, 0) (some 9) = .error (.blocked (-1) 0) := by
    decide +kernel
  have west := (simulate_reflected .leftRight .eastward parsed (0, 0) placed none).2.2.2
  have south := (simulate_reflected .topBottom .northward parsed (0, 0) placed (some 9)).2.2.2
  rw [walked] at west
  rw [stopped] at south
  exact ⟨parsed, placed, west, south⟩

end MazeGrader
