import MazeGrader.Proofs.Maze.Marking
import Mathlib.Data.Finset.Image

/-! Visits one after the other. What they leave are marks at all of their places, whatever their
order and number, and only the first visit of a clear cell says that it was the first. -/
namespace MazeGrader.Grid

/-- The map after visits one after the other. -/
def visitEach (grid : Grid) (visits : List (Nat × Nat)) : Grid :=
  visits.foldl (fun grid place => (grid.visit place.1 place.2).1) grid

/-- What visits one after the other say. -/
def firsts (grid : Grid) : List (Nat × Nat) → List Bool
  | [] => []
  | place :: rest =>
    let (visited, first) := grid.visit place.1 place.2
    first :: firsts visited rest

variable {grid marked : Grid} {visits other : List (Nat × Nat)}

theorem visitEach_cons (grid : Grid) (place : Nat × Nat) (rest : List (Nat × Nat)) :
    grid.visitEach (place :: rest) = (grid.mark place.1 place.2).visitEach rest := by
  rw [visitEach, List.foldl_cons, visit_eq]
  rfl

theorem firsts_cons (grid : Grid) (place : Nat × Nat) (rest : List (Nat × Nat)) :
    grid.firsts (place :: rest) = decide (grid.at? place.1 place.2 = some .clear) ::
      (grid.mark place.1 place.2).firsts rest := by
  rw [firsts, visit_eq]

theorem MarkedAs.visitEach (sofar : grid.MarkedAs marked) (visits : List (Nat × Nat)) :
    grid.MarkedAs (marked.visitEach visits) := by
  induction visits generalizing marked with
  | nil => exact sofar
  | cons place rest ih =>
    rw [visitEach_cons]
    exact ih (sofar.mark place.1 place.2)

/-! ### The places of visits -/

/-- The place of a visit, as an agent has it. -/
def spot (place : Nat × Nat) : Int × Int := (place.1, place.2)

def spots (visits : List (Nat × Nat)) : Finset (Int × Int) := visits.toFinset.image spot

theorem spot_injective : Function.Injective spot := by
  intro place other same
  simp only [spot, Prod.mk.injEq, Int.ofNat_inj] at same
  exact Prod.ext same.1 same.2

theorem mem_spots {r c : Nat} : ((r : Int), (c : Int)) ∈ spots visits ↔ (r, c) ∈ visits := by
  show spot (r, c) ∈ visits.toFinset.image spot ↔ (r, c) ∈ visits
  rw [spot_injective.mem_finset_image, List.mem_toFinset]

theorem spots_cons (place : Nat × Nat) (rest : List (Nat × Nat)) :
    spots (place :: rest) = insert (spot place) (spots rest) := by
  rw [spots, List.toFinset_cons, Finset.image_insert, spots]

/-- Visits on a map with marks only add their places to those of the marks. -/
theorem visitEach_markEach (grid : Grid) (places : Finset (Int × Int))
    (visits : List (Nat × Nat)) :
    (grid.markEach places).visitEach visits = grid.markEach (spots visits ∪ places) := by
  induction visits generalizing places with
  | nil => simp [visitEach, spots]
  | cons place rest ih =>
    rw [visitEach_cons, ← markEach_insert, ih, spots_cons, Finset.insert_union,
      Finset.union_insert, spot]

theorem visitEach_eq_markEach (grid : Grid) (visits : List (Nat × Nat)) :
    grid.visitEach visits = grid.markEach (spots visits) := by
  have marks := grid.visitEach_markEach ∅ visits
  rwa [markEach_empty, Finset.union_empty] at marks

theorem at?_visitEach (grid : Grid) (visits : List (Nat × Nat)) (r c : Nat) :
    (grid.visitEach visits).at? r c =
      if (r, c) ∈ visits ∧ grid.at? r c = some .clear then some .visited else grid.at? r c := by
  rw [visitEach_eq_markEach, at?_markEach]
  simp only [mem_spots]
  by_cases clear : grid.at? r c = some .clear
  · simp [clear, visitCell]
  · simp [clear, map_visitCell clear]

theorem at?_visitEach_eq_visited {r c : Nat} (clear : grid.at? r c = some .clear) :
    (grid.visitEach visits).at? r c = some .visited ↔ (r, c) ∈ visits := by
  rw [at?_visitEach]
  simp [clear]

/-- Visits leave the same map just if they come to the same clear cells. -/
theorem visitEach_eq_iff : grid.visitEach other = grid.visitEach visits ↔
    ∀ r c, grid.at? r c = some .clear → ((r, c) ∈ other ↔ (r, c) ∈ visits) := by
  constructor
  · intro same r c clear
    rw [← at?_visitEach_eq_visited clear, same, at?_visitEach_eq_visited clear]
  · intro same
    refine ext_at? (by simp [visitEach_eq_markEach]) fun r c => ?_
    rw [at?_visitEach, at?_visitEach]
    exact if_congr (and_congr_left (same r c)) rfl rfl

/-! ### First visits -/

/-- Each visit that says it was the first takes one from the clear cells. -/
theorem count_firsts (grid : Grid) (visits : List (Nat × Nat)) :
    (grid.firsts visits).count true + (grid.visitEach visits).numClear = grid.numClear := by
  induction visits generalizing grid with
  | nil => simp [firsts, visitEach]
  | cons place rest ih =>
    have later := ih (grid.mark place.1 place.2)
    have now := grid.numClear_mark place.1 place.2
    rw [firsts_cons, visitEach_cons, List.count_cons]
    simp only [beq_iff_eq, decide_eq_true_eq]
    omega

theorem card_clear_spots (grid : Grid) (visits : List (Nat × Nat)) :
    ((spots visits).filter grid.Clear).card =
      (visits.toFinset.filter fun place => grid.at? place.1 place.2 = some .clear).card := by
  rw [spots, Finset.filter_image, Finset.card_image_of_injective _ spot_injective]
  simp only [Clear, spot, get?_ofNat]

/-- Visits at any coordinates. The answers that tell of a first visit are as many as the clear cells
among the places, each counted once, and as many as the clear cells that are lost. Just these cells
change, and become visited. The map that is left does not depend on the order of the visits, nor on
how often each of them is made. -/
theorem visits_counted_once (grid : Grid) (visits : List (Nat × Nat)) :
    (grid.firsts visits).count true =
      (visits.toFinset.filter fun place => grid.at? place.1 place.2 = some .clear).card ∧
    (grid.firsts visits).count true + (grid.visitEach visits).numClear = grid.numClear ∧
    (∀ r c, (grid.visitEach visits).at? r c =
      if (r, c) ∈ visits ∧ grid.at? r c = some .clear then some .visited else grid.at? r c) ∧
    (grid.visitEach visits).widths = grid.widths ∧
    (∀ other, grid.visitEach other = grid.visitEach visits ↔
      ∀ r c, grid.at? r c = some .clear → ((r, c) ∈ other ↔ (r, c) ∈ visits)) ∧
    (∀ other, other.Perm visits → grid.visitEach other = grid.visitEach visits) ∧
    ∀ before part after, visits = before ++ part ++ after →
      grid.visitEach (before ++ part ++ part ++ after) = grid.visitEach visits := by
  have counted := grid.count_firsts visits
  refine ⟨?_, counted, grid.at?_visitEach visits, ((MarkedAs.refl grid).visitEach visits).widths,
    fun other => visitEach_eq_iff, fun other moved => ?_, fun before part after split => ?_⟩
  · have lost := grid.numClear_markEach (spots visits)
    rw [← visitEach_eq_markEach, card_clear_spots] at lost
    omega
  · exact visitEach_eq_iff.2 fun r c _ => moved.mem_iff
  · refine visitEach_eq_iff.2 fun r c _ => ?_
    simp only [split, List.mem_append, or_self, or_assoc]

/-- A map of rows that differ in length, one of them empty. -/
def ragged : Grid := ⟨[[.clear, .wall], [], [.visited, .clear, .clear]]⟩

/-- Two of its clear cells, one of them twice, a wall, a visited cell and two places off the map. -/
def raggedVisits : List (Nat × Nat) :=
  [(2, 1), (0, 1), (2, 1), (7, 7), (0, 0), (2, 0), (18446744073709551615, 0)]

theorem visits_counted_once_ragged :
    (ragged.firsts raggedVisits).count true = 2 ∧ (ragged.visitEach raggedVisits).numClear = 1 ∧
    raggedVisits.reverse.Perm raggedVisits ∧
    ragged.visitEach raggedVisits.reverse = ragged.visitEach raggedVisits ∧
    ragged.visitEach ([(2, 1)] ++ [(0, 1), (2, 1)] ++ [(0, 1), (2, 1)] ++ raggedVisits.drop 3) =
      ragged.visitEach raggedVisits := by
  obtain ⟨firsts, lost, -, -, -, reordered, repeated⟩ := visits_counted_once ragged raggedVisits
  have two : (ragged.firsts raggedVisits).count true = 2 := firsts.trans (by decide)
  have before : ragged.numClear = 3 := by decide
  have moved := List.reverse_perm raggedVisits
  exact ⟨two, by omega, moved, reordered _ moved, repeated _ _ _ rfl⟩

end MazeGrader.Grid
