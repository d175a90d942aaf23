/-! What an agent perceives: for each of its four neighbours whether it is clear or a wall.
A rule names the surroundings it applies to by four slots, some of which match both. -/
namespace MazeGrader

inductive Neighbour where
  | clear
  | wall
  deriving DecidableEq, Repr

def Neighbour.bit : Neighbour → Nat
  | .clear => 0
  | .wall => 1

def Neighbour.ofBit (bit : Nat) : Neighbour := if bit % 2 = 1 then .wall else .clear

structure Surroundings where
  north : Neighbour
  east : Neighbour
  west : Neighbour
  south : Neighbour
  deriving DecidableEq, Repr

namespace Surroundings

/-- North is the bit of weight eight, then east, west and south; a wall sets its bit. -/
def index (s : Surroundings) : Fin 16 :=
  ⟨8 * s.north.bit + 4 * s.east.bit + 2 * s.west.bit + s.south.bit, by
    cases s with
    | mk n e w s => cases n <;> cases e <;> cases w <;> cases s <;> decide⟩

def ofIndex (i : Fin 16) : Surroundings :=
  ⟨.ofBit (i / 8), .ofBit (i / 4), .ofBit (i / 2), .ofBit i⟩

def ofIndex? (i : Nat) : Option Surroundings :=
  if h : i < 16 then some (ofIndex ⟨i, h⟩) else none

def all : List Surroundings := (List.finRange 16).map ofIndex

theorem index_ofIndex (i : Fin 16) : (ofIndex i).index = i := by
  revert i; decide

theorem ofIndex_index (s : Surroundings) : ofIndex s.index = s := by
  cases s with
  | mk n e w s => cases n <;> cases e <;> cases w <;> cases s <;> rfl

theorem index_injective {s t : Surroundings} (h : s.index = t.index) : s = t := by
  rw [← ofIndex_index s, ← ofIndex_index t, h]

theorem mem_all (s : Surroundings) : s ∈ all :=
  List.mem_map.2 ⟨s.index, List.mem_finRange _, ofIndex_index s⟩

def letter (wall : Char) : Neighbour → Char
  | .clear => 'x'
  | .wall => wall

/-- Four letters, `x` for a clear neighbour and the compass letter for a wall. -/
def text (s : Surroundings) : String :=
  String.ofList [letter 'N' s.north, letter 'E' s.east, letter 'W' s.west, letter 'S' s.south]

end Surroundings

inductive Slot where
  | any
  | clear
  | wall
  deriving DecidableEq, Repr

def Slot.choices : Slot → List Neighbour
  | .any => [.clear, .wall]
  | .clear => [.clear]
  | .wall => [.wall]

/-- The surroundings that a rule is written for. -/
structure Pattern where
  north : Slot
  east : Slot
  west : Slot
  south : Slot
  deriving DecidableEq, Repr

/-- All surroundings that match, in ascending order of index. -/
def Pattern.matching (p : Pattern) : List Surroundings :=
  p.north.choices.flatMap fun north => p.east.choices.flatMap fun east =>
    p.west.choices.flatMap fun west => p.south.choices.map fun south => ⟨north, east, west, south⟩

/-- A pattern matches slot by slot. -/
def Pattern.Matches (p : Pattern) (s : Surroundings) : Prop :=
  s.north ∈ p.north.choices ∧ s.east ∈ p.east.choices ∧
    s.west ∈ p.west.choices ∧ s.south ∈ p.south.choices

instance (p : Pattern) (s : Surroundings) : Decidable (p.Matches s) :=
  inferInstanceAs (Decidable (_ ∧ _ ∧ _ ∧ _))

theorem Pattern.mem_matching {p : Pattern} {s : Surroundings} : s ∈ p.matching ↔ p.Matches s := by
  cases s
  simp only [matching, Matches, List.mem_flatMap, List.mem_map, Surroundings.mk.injEq]
  grind

end MazeGrader
