import MazeGrader.Proofs.Maze.Reflection
import MazeGrader.Proofs.Maze.Visits

/-! Drawings that are read as maps. On a drawing every character but a space is a wall, so a map is
read again but for its visited cells and the cell of the agent, which are walls then. -/
namespace MazeGrader

namespace Text

/-- The text with this ending in place of every line feed. -/
def endLines (ending : List Char) (text : String) : String :=
  String.ofList (text.toList.flatMap fun c => if c = '\n' then ending else [c])

theorem endLines_lineFeed (text : String) : endLines ['\n'] text = text := by
  have same : (fun c : Char => if c = '\n' then ['\n'] else [c]) = fun c => [c] := by
    funext c
    split
    · next feed => rw [feed]
    · rfl
  rw [endLines, same, List.flatMap_singleton', String.ofList_toList]

/-- Only the ends of the lines change if there is no line feed elsewhere. -/
theorem flatMap_endings {several : List (List Char)} (whole : ∀ line ∈ several, '\n' ∉ line)
    (ending : List Char) :
    (several.flatMap (· ++ ['\n'])).flatMap (fun c => if c = '\n' then ending else [c]) =
      several.flatMap (· ++ ending) := by
  rw [List.flatMap_assoc]
  refine List.flatMap_congr fun line member => ?_
  have kept : line.flatMap (fun c => if c = '\n' then ending else [c]) = line := by
    have same : ∀ c ∈ line, (if c = '\n' then ending else [c]) = [c] := by
      intro c inside
      refine if_neg ?_
      rintro rfl
      exact whole line member inside
    rw [List.flatMap_congr same, List.flatMap_singleton']
  simp [kept]

end Text

namespace Grid

/-- The map that a drawing is read as. -/
def redrawn (agent : Option (Nat × Nat)) (grid : Grid) : Grid :=
  grid.mapCells fun r c cell => cellOf (symbol (agent == some (r, c)) cell)

variable {grid : Grid} {shape : MapShape} {agent : Option (Nat × Nat)} {ending : List Char}

theorem cellOf_symbol (occupied : Bool) (cell : Cell) :
    cellOf (symbol occupied cell) = if cell = .clear ∧ occupied = false then .clear else .wall := by
  cases occupied <;> cases cell <;> rfl

theorem at?_redrawn (agent : Option (Nat × Nat)) (grid : Grid) (r c : Nat) :
    (grid.redrawn agent).at? r c = (grid.at? r c).map fun cell =>
      if cell = .clear ∧ agent ≠ some (r, c) then .clear else .wall := by
  simp only [redrawn, at?_mapCells, cellOf_symbol, beq_eq_false_iff_ne]

/-- The rows of a drawing. -/
def symbols (agent : Option (Nat × Nat)) (grid : Grid) : List (List Char) :=
  grid.rows.mapIdx fun r cells => cells.mapIdx fun c cell => symbol (agent == some (r, c)) cell

theorem draw_eq (agent : Option (Nat × Nat)) (grid : Grid) :
    grid.draw agent = (grid.symbols agent).flatMap (· ++ ['\n']) := by
  simp [draw, symbols, List.flatMap_def, List.mapIdx_eq_zipIdx_map, Function.comp_def]

/-- No symbol could end a row. -/
theorem not_mem_symbols {line : List Char} (member : line ∈ grid.symbols agent) :
    '\n' ∉ line ∧ '\r' ∉ line := by
  obtain ⟨r, inRows, rfl⟩ := List.mem_mapIdx.1 member
  have apart : ∀ occupied cell, symbol occupied cell ≠ '\n' ∧ symbol occupied cell ≠ '\r' := by
    rintro (_ | _) (_ | _ | _) <;> decide
  constructor
  · intro feed
    obtain ⟨c, inCells, same⟩ := List.mem_mapIdx.1 feed
    exact (apart _ _).1 same
  · intro carriage
    obtain ⟨c, inCells, same⟩ := List.mem_mapIdx.1 carriage
    exact (apart _ _).2 same

theorem ofLines_symbols (agent : Option (Nat × Nat)) (grid : Grid) :
    ofLines (grid.symbols agent) = grid.redrawn agent := by
  simp [ofLines, symbols, redrawn, mapCells, List.mapIdx_eq_zipIdx_map, Function.comp_def]

/-- The drawing of a map that has a shape is read in this shape. -/
theorem parse_endLines_drawing (agent : Option (Nat × Nat))
    (ends : ending = ['\n'] ∨ ending = ['\r', '\n']) (height : grid.height = shape.rows)
    (even : 1 < grid.height → ∀ width ∈ grid.widths, width = shape.cols) :
    parse shape (Text.endLines ending (grid.drawing agent)) = .ok (grid.redrawn agent) := by
  have lines : Text.lines (Text.endLines ending (grid.drawing agent)).toList =
      grid.symbols agent := by
    rw [Text.endLines, drawing, String.toList_ofList, String.toList_ofList, draw_eq,
      Text.flatMap_endings fun line member => (not_mem_symbols member).1]
    exact Text.lines_flatMap (fun line => not_mem_symbols) ends
  have widths : (grid.redrawn agent).widths = grid.widths := widths_mapCells grid _
  have heights : (grid.redrawn agent).height = grid.height := by
    simp [redrawn, mapCells, Grid.height]
  rw [parse, lines, ofLines_symbols]
  refine checkShape_eq_ok_iff.2 ⟨rfl, heights.trans height, fun several cells member => ?_⟩
  exact even (heights ▸ several) _ (widths ▸ List.mem_map_of_mem member)

theorem redrawn_eq_self (unvisited : ∀ r c, grid.at? r c ≠ some .visited) :
    grid.redrawn none = grid := by
  refine ext_at? (by simp [redrawn, mapCells, Grid.height]) fun r c => ?_
  rw [at?_redrawn]
  cases found : grid.at? r c with
  | none => rfl
  | some cell =>
    cases cell with
    | clear => rfl
    | visited => exact absurd found (unvisited r c)
    | wall => rfl

theorem at?_redrawn_of_ne {agent place : Nat × Nat} (apart : place ≠ agent) :
    (grid.redrawn (some agent)).at? place.1 place.2 =
      (grid.redrawn none).at? place.1 place.2 := by
  have other : agent ≠ place := apart.symm
  simp [at?_redrawn, other]

theorem at?_redrawn_agent (agent : Nat × Nat) :
    (grid.redrawn (some agent)).at? agent.1 agent.2 =
      ((grid.redrawn none).at? agent.1 agent.2).map fun _ => .wall := by
  simp [at?_redrawn, Function.comp_def]

/-- A map that was read is a rectangle. After any visits its drawing is read in the same shape, with
either ending of the lines: just the cells that are still clear are clear, and all others are walls,
so that nothing changes where nothing was visited. The agent on a drawing only adds a wall. -/
theorem parse_drawing {source : String} (parsed : parse shape source = .ok grid)
    (visits : List (Nat × Nat)) :
    grid.Rectangular ∧ ∃ again : Grid,
      parse shape ((grid.visitEach visits).drawing none) = .ok again ∧
      parse shape (Text.endLines ['\r', '\n'] ((grid.visitEach visits).drawing none)) =
        .ok again ∧
      again.widths = grid.widths ∧
      (∀ r c, again.at? r c = ((grid.visitEach visits).at? r c).map fun cell =>
        if cell = .clear then .clear else .wall) ∧
      ((∀ r c, (grid.visitEach visits).at? r c ≠ some .visited) →
        again = grid.visitEach visits) ∧
      ∀ agent : Nat × Nat, ∃ other : Grid,
        parse shape ((grid.visitEach visits).drawing (some agent)) = .ok other ∧
        parse shape (Text.endLines ['\r', '\n'] ((grid.visitEach visits).drawing (some agent))) =
          .ok other ∧
        other.widths = grid.widths ∧
        (∀ place, place ≠ agent → other.at? place.1 place.2 = again.at? place.1 place.2) ∧
        other.at? agent.1 agent.2 = (again.at? agent.1 agent.2).map fun _ => .wall := by
  refine ⟨rectangular_of_parse parsed, ?_⟩
  obtain ⟨rfl, height, even⟩ := checkShape_eq_ok_iff.1 parsed
  generalize ofLines (Text.lines source.toList) = grid at height even
  have marks := (MarkedAs.refl grid).visitEach visits
  have shaped : ∀ agent, ∀ ending, (ending = ['\n'] ∨ ending = ['\r', '\n']) →
      parse shape (Text.endLines ending ((grid.visitEach visits).drawing agent)) =
        .ok ((grid.visitEach visits).redrawn agent) := by
    intro agent ending ends
    refine parse_endLines_drawing agent ends (marks.height.trans height) fun several width => ?_
    rw [marks.widths]
    rw [marks.height] at several
    simpa [widths] using fun cells member same => same ▸ even several cells member
  have plain : ∀ agent, parse shape ((grid.visitEach visits).drawing agent) =
      .ok ((grid.visitEach visits).redrawn agent) := by
    intro agent
    rw [← Text.endLines_lineFeed ((grid.visitEach visits).drawing agent)]
    exact shaped agent _ (.inl rfl)
  have sizes : ∀ agent, ((grid.visitEach visits).redrawn agent).widths = grid.widths :=
    fun agent => (widths_mapCells _ _).trans marks.widths
  refine ⟨_, plain none, shaped none _ (.inr rfl), sizes none, fun r c => ?_, redrawn_eq_self,
    fun agent => ⟨_, plain _, shaped _ _ (.inr rfl), sizes _, fun place => at?_redrawn_of_ne,
      at?_redrawn_agent agent⟩⟩
  simp [at?_redrawn]

/-- A map of three columns with a tab, a carriage return and a letter for walls. -/
def untidyMap : Grid := ⟨[[.wall, .clear, .wall], [.clear, .wall, .wall]]⟩

theorem parse_drawing_untidy :
    parse ⟨2, 3⟩ "é \t\n \r#" = .ok untidyMap ∧
      ∃ again : Grid, parse ⟨2, 3⟩ "#~#\n ##\n" = .ok again ∧
        parse ⟨2, 3⟩ "#~#\r\n ##\r\n" = .ok again ∧
        again.at? 0 1 = some .wall ∧ again.at? 1 0 = some .clear := by
  have parsed : parse ⟨2, 3⟩ "é \t\n \r#" = .ok untidyMap := by decide +kernel
  obtain ⟨-, again, same, fed, -, cells, -⟩ := parse_drawing parsed [(0, 1), (0, 0), (7, 7), (0, 1)]
  refine ⟨parsed, again, same, fed, ?_, ?_⟩
  · rw [cells]
    rfl
  · rw [cells]
    rfl

end Grid

end MazeGrader
