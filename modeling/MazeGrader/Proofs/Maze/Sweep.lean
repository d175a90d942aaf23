import MazeGrader.Proofs.Maze.Looping
import MazeGrader.Proofs.Rules.Layout

/-! Rules that sweep an empty room. The agent goes west and north to the corner and then from row
to row, so wherever it begins it comes to every cell, and a default cap leaves it the time. -/
namespace MazeGrader

open Walk (Config after trail Covers)

/-! ### Where a walk leads -/

namespace Walk

/-- A walk comes from one configuration to the other. -/
def Reaches (rules : RuleTable) (free : Int × Int → Bool) (c d : Config) : Prop :=
  ∃ n, after rules free c n = .ok d

variable {rules : RuleTable} {free : Int × Int → Bool} {c d e : Config}

namespace Reaches

theorem refl (c : Config) : Reaches rules free c c := ⟨0, rfl⟩

theorem trans (first : Reaches rules free c d) (second : Reaches rules free d e) :
    Reaches rules free c e := by
  obtain ⟨m, there⟩ := first
  obtain ⟨n, further⟩ := second
  exact ⟨m + n, (after_add_of_ok there).trans further⟩

/-- One step by a rule of the table. -/
theorem step {written : List Rule} (records : Records written rules) {state next : State}
    {pattern : Pattern} {direction : Direction} {place : Int × Int}
    (member : ⟨state, pattern, ⟨direction, next⟩⟩ ∈ written)
    (matched : pattern.Matches (surroundings free place))
    (ahead : free (direction.target place) = true) :
    Reaches rules free ⟨state, place⟩ ⟨next, direction.target place⟩ := by
  have found : rules.lookup state (surroundings free place) = some ⟨direction, next⟩ :=
    (records.lookup ..).2 ⟨_, member, rfl, matched, rfl⟩
  refine ⟨1, ?_⟩
  rw [after_succ rfl]
  unfold Walk.step
  dsimp only
  rw [found]
  exact if_pos ahead

end Reaches

end Walk

/-! ### Straight on -/

/-- The place so many steps further in some direction. -/
def Direction.along (direction : Direction) (place : Int × Int) (n : Nat) : Int × Int :=
  (place.1 + n * direction.offset.1, place.2 + n * direction.offset.2)

theorem Direction.target_along (direction : Direction) (place : Int × Int) (n : Nat) :
    direction.target (direction.along place n) = direction.along place (n + 1) := by
  cases direction <;> simp [target, along, offset] <;> omega

/-- A slot admits a neighbour that is free, or none that is not. -/
def Slot.Admits : Slot → Prop → Prop
  | .any, _ => True
  | .clear, free => free
  | .wall, free => ¬free

theorem Slot.neighbour_mem_choices_iff {free : Int × Int → Bool} {place : Int × Int}
    {direction : Direction} (slot : Slot) :
    Walk.neighbour free place direction ∈ slot.choices ↔
      slot.Admits (free (direction.target place) = true) := by
  unfold Walk.neighbour
  cases slot <;> cases free (direction.target place) <;> simp [choices, Admits]

/-- All that is asked for is that the neighbour in some direction is clear. -/
def Pattern.clearAhead : Direction → Pattern
  | .north => ⟨.clear, .any, .any, .any⟩
  | .east => ⟨.any, .clear, .any, .any⟩
  | .west => ⟨.any, .any, .clear, .any⟩
  | .south => ⟨.any, .any, .any, .clear⟩
  | .stay => ⟨.any, .any, .any, .any⟩

theorem Pattern.clearAhead_matches {free : Int × Int → Bool} {place : Int × Int}
    {direction : Direction} (ahead : free (direction.target place) = true) :
    (clearAhead direction).Matches (Walk.surroundings free place) := by
  cases direction <;>
    simp [clearAhead, Matches, Walk.surroundings, Slot.neighbour_mem_choices_iff, Slot.Admits,
      ahead]

/-- A rule that keeps to its state leads straight on over free places. -/
theorem Walk.Reaches.straight {rules : RuleTable} {free : Int × Int → Bool} {written : List Rule}
    (records : Records written rules) {state : State} {direction : Direction} {place : Int × Int}
    {n : Nat} (member : ⟨state, .clearAhead direction, ⟨direction, state⟩⟩ ∈ written)
    (ahead : ∀ i < n, free (direction.along place (i + 1)) = true) :
    Reaches rules free ⟨state, place⟩ ⟨state, direction.along place n⟩ := by
  induction n with
  | zero =>
    have here : direction.along place 0 = place := by simp [Direction.along]
    rw [here]
    exact refl _
  | succ n ih =>
    have sofar := ih fun i before => ahead i (Nat.lt_succ_of_lt before)
    have last := ahead n (Nat.lt_succ_self n)
    rw [← Direction.target_along] at last ⊢
    exact sofar.trans (step records member (Pattern.clearAhead_matches last) last)

/-! ### Everywhere in time -/

/-- A walk that comes to each of some places was at all of them after some number of steps. -/
theorem Walk.exists_subset_trail {rules : RuleTable} {free : Int × Int → Bool} {c : Config}
    (places : Finset (Int × Int))
    (seen : ∀ place ∈ places, ∃ state, Reaches rules free c ⟨state, place⟩) :
    ∃ n, (∃ d, after rules free c n = .ok d) ∧ places ⊆ trail rules free c n := by
  induction places using Finset.induction_on with
  | empty => exact ⟨0, ⟨c, rfl⟩, Finset.empty_subset _⟩
  | insert place places fresh ih =>
    obtain ⟨m, reached, others⟩ :=
      ih fun other member => seen other (Finset.mem_insert_of_mem member)
    obtain ⟨state, n, arrived⟩ := seen place (Finset.mem_insert_self ..)
    refine ⟨max m n, ?_, Finset.insert_subset ?_ ?_⟩
    · rcases max_choice m n with last | last
      · rw [last]
        exact reached
      · rw [last]
        exact ⟨_, arrived⟩
    · exact trail_mono (le_max_right m n) (mem_trail.2 ⟨n, le_rfl, _, arrived, rfl⟩)
    · exact others.trans (trail_mono (le_max_left m n))

theorem exists_covers {rules : RuleTable} {grid : Grid} {c : Config}
    (seen : ∀ place, grid.Clear place → ∃ state, Walk.Reaches rules grid.free c ⟨state, place⟩) :
    ∃ n, Covers rules grid.free c grid.Clear n := by
  obtain ⟨n, reached, all⟩ := Walk.exists_subset_trail (grid.places.filter grid.Clear)
    fun place member => seen place (Finset.mem_filter.1 member).2
  refine ⟨n, reached, fun place clear => all ?_⟩
  obtain ⟨r, c, hr, hc, at?⟩ := Grid.get?_eq_some clear
  obtain rfl : place = ((r : Int), (c : Int)) := Prod.ext hr hc
  exact Finset.mem_filter.2 ⟨Grid.mem_places (by rw [at?]; rfl), clear⟩

/-! ### Empty rooms -/

namespace Grid

/-- A wall around so many rows and columns of clear cells. -/
def room (rows cols : Nat) : Grid :=
  ⟨(List.range (rows + 2)).map fun r => (List.range (cols + 2)).map fun c =>
    if 1 ≤ r ∧ r ≤ rows ∧ 1 ≤ c ∧ c ≤ cols then .clear else .wall⟩

/-- The places within the walls. -/
abbrev InRoom (rows cols : Nat) (place : Int × Int) : Prop :=
  1 ≤ place.1 ∧ place.1 ≤ rows ∧ 1 ≤ place.2 ∧ place.2 ≤ cols

variable {rows cols : Nat}

theorem numCells_room : (room rows cols).numCells = (rows + 2) * (cols + 2) := by
  simp [room, numCells, List.length_flatten, Function.comp_def]

theorem at?_room (r c : Nat) : (room rows cols).at? r c =
    if r < rows + 2 ∧ c < cols + 2 then
      some (if 1 ≤ r ∧ r ≤ rows ∧ 1 ≤ c ∧ c ≤ cols then .clear else .wall)
    else none := by
  unfold at? room
  by_cases inRows : r < rows + 2
  · by_cases inCols : c < cols + 2 <;> simp [inRows, inCols]
  · simp [inRows]

theorem clear_room_iff {place : Int × Int} :
    (room rows cols).Clear place ↔ InRoom rows cols place := by
  obtain ⟨row, col⟩ := place
  unfold Clear get? InRoom
  dsimp only
  split
  · rw [at?_room]
    split
    · split <;> simp <;> omega
    · simp
      omega
  · simp
    omega

theorem fresh_room : (room rows cols).Fresh := by
  intro visited
  obtain ⟨cells, inRows, inCells⟩ := List.mem_flatten.1 visited
  obtain ⟨r, -, rfl⟩ := List.mem_map.1 inRows
  obtain ⟨c, -, same⟩ := List.mem_map.1 inCells
  split at same <;> cases same

theorem free_room_iff {place : Int × Int} :
    (room rows cols).free place = true ↔ InRoom rows cols place := by
  rw [← clear_room_iff]
  constructor
  · exact clear_of_free fresh_room
  · intro clear
    unfold free
    rw [show (room rows cols).get? place.1 place.2 = some .clear from clear]
    rfl

end Grid

/-! ### Rules in a room -/

/-- What a pattern asks for in a room. -/
theorem Pattern.matches_room_iff {rows cols : Nat} {row col : Int} (p : Pattern) :
    p.Matches (Walk.surroundings (Grid.room rows cols).free (row, col)) ↔
      p.north.Admits (Grid.InRoom rows cols (row - 1, col)) ∧
      p.east.Admits (Grid.InRoom rows cols (row, col + 1)) ∧
      p.west.Admits (Grid.InRoom rows cols (row, col - 1)) ∧
      p.south.Admits (Grid.InRoom rows cols (row + 1, col)) := by
  simp only [Matches, Walk.surroundings, Slot.neighbour_mem_choices_iff, Grid.free_room_iff]
  simp [Direction.target, Direction.offset, ← Int.sub_eq_add_neg]

namespace RuleTable

/-- Rules that sweep a room. -/
def snakeLines : List String := [
  "# Sweep an empty room row by row.",
  "# Go west to the wall, north to the corner, then zig-zag south.",
  "",
  "0 **x* -> W 0",
  "0 x*W* -> N 1",
  "0 N*W* -> E 2",
  "",
  "1 x*** -> N 1",
  "1 N*** -> E 2",
  "",
  "2 *x** -> E 2   # east to the wall",
  "2 *E*x -> S 3",
  "3 **x* -> W 3",
  "3 **Wx -> S 2"]

/-- The file of these lines, of which each ends in a line feed. -/
def snake : String := "\n".intercalate snakeLines ++ "\n"

def snakeRules : List Rule := [
  ⟨0, ⟨.any, .any, .clear, .any⟩, ⟨.west, 0⟩⟩,
  ⟨0, ⟨.clear, .any, .wall, .any⟩, ⟨.north, 1⟩⟩,
  ⟨0, ⟨.wall, .any, .wall, .any⟩, ⟨.east, 2⟩⟩,
  ⟨1, ⟨.clear, .any, .any, .any⟩, ⟨.north, 1⟩⟩,
  ⟨1, ⟨.wall, .any, .any, .any⟩, ⟨.east, 2⟩⟩,
  ⟨2, ⟨.any, .clear, .any, .any⟩, ⟨.east, 2⟩⟩,
  ⟨2, ⟨.any, .wall, .any, .clear⟩, ⟨.south, 3⟩⟩,
  ⟨3, ⟨.any, .any, .clear, .any⟩, ⟨.west, 3⟩⟩,
  ⟨3, ⟨.any, .any, .wall, .clear⟩, ⟨.south, 2⟩⟩]

theorem compileSource_snake : ∃ table, compileSource snake = .ok table ∧
    Records snakeRules table ∧ table.numStates = 4 := by
  have joined : compileSource snake = compile snakeLines :=
    compileSource_intercalate (by decide +kernel) (.inl rfl) (.inr (.inl rfl))
  rw [joined]
  have rules : readRules (snakeLines.map String.toList) = snakeRules := by decide +kernel
  have states : (compile snakeLines).map numStates = .ok 4 := by decide +kernel
  cases compiled : compile snakeLines with
  | error fault =>
    rw [compiled] at states
    cases states
  | ok table =>
    rw [compiled] at states
    obtain ⟨-, -, records⟩ := Records.empty.of_addLines .nil compiled
    rw [List.nil_append, rules] at records
    exact ⟨table, rfl, records, Except.ok.inj states⟩

end RuleTable

/-! ### From the start to the last row -/

namespace Walk.Reaches

variable {rules : RuleTable} {written : List Rule} {rows cols : Nat} {state next : State}

/-- Between two places of a room in one row or column there is no wall. -/
theorem across_room (records : Records written rules) (direction : Direction) (n : Nat)
    {place final : Int × Int}
    (member : ⟨state, .clearAhead direction, ⟨direction, state⟩⟩ ∈ written)
    (inside : Grid.InRoom rows cols place) (there : direction.along place n = final)
    (within : Grid.InRoom rows cols final) :
    Reaches rules (Grid.room rows cols).free ⟨state, place⟩ ⟨state, final⟩ := by
  subst there
  refine straight records member fun i before => Grid.free_room_iff.2 ?_
  unfold Grid.InRoom Direction.along at *
  cases direction <;> simp only [Direction.offset] at * <;> omega

/-- One step by a rule, where the pattern and the way ahead are told by the walls of the room. -/
theorem step_room (records : Records written rules) (pattern : Pattern) (direction : Direction)
    {row col : Int} {final : Int × Int}
    (member : ⟨state, pattern, ⟨direction, next⟩⟩ ∈ written)
    (matched : pattern.north.Admits (Grid.InRoom rows cols (row - 1, col)) ∧
      pattern.east.Admits (Grid.InRoom rows cols (row, col + 1)) ∧
      pattern.west.Admits (Grid.InRoom rows cols (row, col - 1)) ∧
      pattern.south.Admits (Grid.InRoom rows cols (row + 1, col)))
    (there : direction.target (row, col) = final) (within : Grid.InRoom rows cols final) :
    Reaches rules (Grid.room rows cols).free ⟨state, (row, col)⟩ ⟨next, final⟩ := by
  subst there
  exact step records member (pattern.matches_room_iff.2 matched)
    (Grid.free_room_iff.2 within)

end Walk.Reaches

open Walk (Reaches)

section Sweep

variable {table : RuleTable} {rows cols : Nat} {c : Config}

/-- West along a row, in a state that goes west as long as it can. -/
theorem reaches_westward (records : Records RuleTable.snakeRules table) {state : State}
    (member : ⟨state, .clearAhead .west, ⟨.west, state⟩⟩ ∈ RuleTable.snakeRules) {row col : Int}
    (inside : Grid.InRoom rows cols (row, col)) {final : Int} (first : 1 ≤ final)
    (before : final ≤ col) :
    Reaches table (Grid.room rows cols).free ⟨state, (row, col)⟩ ⟨state, (row, final)⟩ := by
  refine .across_room records .west (col - final).toNat member inside ?_ ?_
  · simp [Direction.along, Direction.offset]
    omega
  · omega

theorem reaches_eastward (records : Records RuleTable.snakeRules table) {row col : Int}
    (inside : Grid.InRoom rows cols (row, col)) {final : Int} (after : col ≤ final)
    (last : final ≤ cols) :
    Reaches table (Grid.room rows cols).free ⟨2, (row, col)⟩ ⟨2, (row, final)⟩ := by
  refine .across_room records .east (final - col).toNat (by decide) inside ?_ ?_
  · simp [Direction.along, Direction.offset]
    omega
  · omega

/-- From everywhere the agent comes to the corner, and from there to the east of it. -/
theorem reaches_corner (records : Records RuleTable.snakeRules table) (wide : 2 ≤ cols)
    {place : Int × Int} (inside : Grid.InRoom rows cols place) :
    (∃ state, Reaches table (Grid.room rows cols).free ⟨0, place⟩ ⟨state, (1, 1)⟩) ∧
      Reaches table (Grid.room rows cols).free ⟨0, place⟩ ⟨2, (1, 2)⟩ := by
  obtain ⟨row, col⟩ := place
  have west : Reaches table (Grid.room rows cols).free ⟨0, (row, col)⟩ ⟨0, (row, 1)⟩ :=
    reaches_westward records (by decide) inside le_rfl inside.2.2.1
  by_cases top : row = 1
  · subst top
    refine ⟨⟨0, west⟩, west.trans ?_⟩
    refine .step_room records ⟨.wall, .any, .wall, .any⟩ .east (by decide) ?_ rfl ?_
    · simp only [Slot.Admits, true_and, and_true]
      omega
    · omega
  · have turn : Reaches table (Grid.room rows cols).free ⟨0, (row, 1)⟩ ⟨1, (row - 1, 1)⟩ := by
      refine .step_room records ⟨.clear, .any, .wall, .any⟩ .north (by decide) ?_ rfl ?_
      · simp only [Slot.Admits, true_and, and_true]
        omega
      · omega
    have north : Reaches table (Grid.room rows cols).free ⟨1, (row - 1, 1)⟩ ⟨1, (1, 1)⟩ := by
      refine .across_room records .north (row - 2).toNat (by decide) ?_ ?_ ?_
      · omega
      · simp [Direction.along, Direction.offset]
        omega
      · omega
    have east : Reaches table (Grid.room rows cols).free ⟨1, (1, 1)⟩ ⟨2, (1, 2)⟩ := by
      refine .step_room records ⟨.wall, .any, .any, .any⟩ .east (by decide) ?_ rfl ?_
      · simp only [Slot.Admits, and_true]
        omega
      · omega
    have corner := (west.trans turn).trans north
    exact ⟨⟨1, corner⟩, corner.trans east⟩

/-- The agent came to all places of a row, and is at an end of it from where it goes south. -/
structure RowSwept (table : RuleTable) (rows cols : Nat) (c : Config) (row : Int) : Prop where
  seen : ∀ col : Int, 1 ≤ col → col ≤ cols →
    ∃ state, Reaches table (Grid.room rows cols).free c ⟨state, (row, col)⟩
  turn : Reaches table (Grid.room rows cols).free c ⟨2, (row, cols)⟩ ∨
    Reaches table (Grid.room rows cols).free c ⟨3, (row, 1)⟩

namespace RowSwept

theorem of_corner (records : Records RuleTable.snakeRules table) (positive : 1 ≤ rows)
    (wide : 2 ≤ cols) {place : Int × Int} (inside : Grid.InRoom rows cols place) :
    RowSwept table rows cols ⟨0, place⟩ 1 := by
  obtain ⟨corner, second⟩ := reaches_corner records wide inside
  have beside : Grid.InRoom rows cols (1, 2) := by omega
  constructor
  · intro col first last
    by_cases here : col = 1
    · rw [here]
      exact corner
    · exact ⟨2, second.trans (reaches_eastward records beside (by omega) last)⟩
  · exact .inl (second.trans (reaches_eastward records beside (by omega) le_rfl))

/-- The next row is swept in the other direction. -/
theorem next (records : Records RuleTable.snakeRules table) (wide : 2 ≤ cols) {row : Int}
    (first : 1 ≤ row) (more : row + 1 ≤ rows) (swept : RowSwept table rows cols c row) :
    RowSwept table rows cols c (row + 1) := by
  rcases swept.turn with atEast | atWest
  · have below : Grid.InRoom rows cols (row + 1, cols) := by omega
    have down : Reaches table (Grid.room rows cols).free ⟨2, (row, cols)⟩ ⟨3, (row + 1, cols)⟩ := by
      refine .step_room records ⟨.any, .wall, .any, .clear⟩ .south (by decide) ?_ ?_ below
      · simp only [Slot.Admits, true_and]
        omega
      · simp [Direction.target, Direction.offset]
    have west : ∀ col : Int, 1 ≤ col → col ≤ cols →
        Reaches table (Grid.room rows cols).free c ⟨3, (row + 1, col)⟩ := fun col left right =>
      (atEast.trans down).trans (reaches_westward records (by decide) below left right)
    exact ⟨fun col left right => ⟨3, west col left right⟩, .inr (west 1 le_rfl (by omega))⟩
  · have below : Grid.InRoom rows cols (row + 1, 1) := by omega
    have down : Reaches table (Grid.room rows cols).free ⟨3, (row, 1)⟩ ⟨2, (row + 1, 1)⟩ := by
      refine .step_room records ⟨.any, .any, .wall, .clear⟩ .south (by decide) ?_ ?_ below
      · simp only [Slot.Admits, true_and]
        omega
      · simp [Direction.target, Direction.offset]
    have east : ∀ col : Int, 1 ≤ col → col ≤ cols →
        Reaches table (Grid.room rows cols).free c ⟨2, (row + 1, col)⟩ := fun col left right =>
      (atWest.trans down).trans (reaches_eastward records below left right)
    exact ⟨fun col left right => ⟨2, east col left right⟩, .inl (east cols (by omega) le_rfl)⟩

/-- The induction is on the number of rows above. -/
theorem of_lt (records : Records RuleTable.snakeRules table) (wide : 2 ≤ cols)
    {place : Int × Int} (inside : Grid.InRoom rows cols place) (above : Nat)
    (within : above < rows) : RowSwept table rows cols ⟨0, place⟩ (above + 1) := by
  induction above with
  | zero => exact of_corner records within wide inside
  | succ above ih =>
    have swept := ih (Nat.lt_of_succ_lt within)
    rw [Nat.cast_add_one]
    exact swept.next records wide (by omega) (by omega)

end RowSwept

/-- Wherever the agent begins, it comes to every cell of the room. -/
theorem reaches_everywhere (records : Records RuleTable.snakeRules table) (wide : 2 ≤ cols)
    {place final : Int × Int} (inside : Grid.InRoom rows cols place)
    (within : Grid.InRoom rows cols final) :
    ∃ state, Reaches table (Grid.room rows cols).free ⟨0, place⟩ ⟨state, final⟩ := by
  obtain ⟨row, col⟩ := final
  obtain ⟨above, rfl⟩ : ∃ above : Nat, row = above + 1 := ⟨(row - 1).toNat, by omega⟩
  exact (RowSwept.of_lt records wide inside above (by omega)).seen col within.2.2.1 within.2.2.2

end Sweep

/-! ### Time enough -/

/-- A walk that ever covers the clear cells covers them before a cap above the number of states
at places, since it would repeat itself by then. -/
theorem simulate_of_covers {rules : RuleTable} {grid : Grid} {position : Nat × Nat}
    {cap : Option UInt64} (placed : Run.passable (grid.at? position.1 position.2) = true)
    (enough : grid.numCells * rules.numStates < (cap.getD (defaultCap rules grid)).toNat)
    (covers : ∃ n, Covers rules grid.free (Walk.start position) grid.Clear n) :
    ∃ outcome, simulate rules grid position cap = .ok outcome ∧
      outcome.coverage = 1 ∧ outcome.hitCap = false := by
  classical
  have inside := free_start placed
  have least : IsLeast {i | Covers rules grid.free (Walk.start position) grid.Clear i}
      (Nat.find covers) := ⟨Nat.find_spec covers, fun i => Nat.find_min' covers⟩
  obtain ⟨⟨d, reached⟩, -⟩ := least.1
  have eventually := Run.finish_of_covers inside least
    (le_max_left _ (cap.getD (defaultCap rules grid)).toNat) reached
  rw [simulate_eq rules cap placed]
  rcases sameEnd_of_long inside enough (le_max_right (Nat.find covers) _) with
    ⟨fault, failed, -⟩ | ⟨outcome, completed, long, soon⟩ | ⟨long, -, ends, -, cut, -⟩
  · rw [eventually] at failed
    cases failed
  · rw [eventually] at long
    cases long
    exact ⟨_, soon, rfl, rfl⟩
  · rw [eventually] at ends
    cases ends
    cases cut

/-- In every room of two or more columns the sweeping rules cover all cells, from wherever they
begin, if only the default cap is not too large for its 64 bits. -/
theorem simulate_snake (rows cols : Nat) (position : Nat × Nat) (positive : 1 ≤ rows)
    (wide : 2 ≤ cols)
    (inside : 1 ≤ position.1 ∧ position.1 ≤ rows ∧ 1 ≤ position.2 ∧ position.2 ≤ cols)
    (fits : (rows + 2) * (cols + 2) * 16 * 4 * 4 < 2 ^ 64) :
    ∃ table outcome, RuleTable.compileSource RuleTable.snake = .ok table ∧
      (defaultCap table (Grid.room rows cols)).toNat = (rows + 2) * (cols + 2) * 16 * 4 * 4 ∧
      simulate table (Grid.room rows cols) position none = .ok outcome ∧
      outcome.coverage = 1 ∧ outcome.hitCap = false := by
  obtain ⟨table, compiled, records, states⟩ := RuleTable.compileSource_snake
  have within : Grid.InRoom rows cols ((position.1 : Int), (position.2 : Int)) := by omega
  have placed : Run.passable ((Grid.room rows cols).at? position.1 position.2) = true :=
    (Grid.free_ofNat ..).symm.trans (Grid.free_room_iff.2 within)
  have cap : (defaultCap table (Grid.room rows cols)).toNat =
      (rows + 2) * (cols + 2) * 16 * 4 * 4 := by
    have known : max table.numStates 1 = 4 := by rw [states]; rfl
    rw [toNat_defaultCap (by rwa [Grid.numCells_room, known]), Grid.numCells_room, known]
  have covers := exists_covers fun place clear =>
    reaches_everywhere records wide within (Grid.clear_room_iff.1 clear)
  have enough : (Grid.room rows cols).numCells * table.numStates <
      ((none : Option UInt64).getD (defaultCap table (Grid.room rows cols))).toNat := by
    rw [Option.getD_none, cap, Grid.numCells_room, states]
    have cells : 0 < (rows + 2) * (cols + 2) := Nat.mul_pos (by omega) (by omega)
    omega
  obtain ⟨outcome, simulated, full, completed⟩ := simulate_of_covers placed enough covers
  exact ⟨table, outcome, compiled, cap, simulated, full, completed⟩

theorem simulate_snake_standard :
    1 ≤ 23 ∧ 2 ≤ 23 ∧ (23 + 2) * (23 + 2) * 16 * 4 * 4 < 2 ^ 64 ∧
    ∃ table outcome, RuleTable.compileSource RuleTable.snake = .ok table ∧
      (defaultCap table (Grid.room 23 23)).toNat = 160000 ∧
      simulate table (Grid.room 23 23) (12, 12) none = .ok outcome ∧
      outcome.coverage = 1 ∧ outcome.hitCap = false := by
  have fits : (23 + 2) * (23 + 2) * 16 * 4 * 4 < 2 ^ 64 := by decide
  exact ⟨by decide, by decide, fits,
    simulate_snake 23 23 (12, 12) (by decide) (by decide) (by decide) fits⟩

end MazeGrader
