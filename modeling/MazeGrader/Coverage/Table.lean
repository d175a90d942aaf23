import MazeGrader.Coverage.Ratio
import MazeGrader.Ordered.Entries

/-! Deductions by coverage. A threshold is a ratio of the clear cells, and reaching it costs
its deduction; more than the highest threshold costs nothing. -/
namespace MazeGrader

/-- Thresholds in ascending order, with their deductions. -/
structure CoverageTable where
  entries : List (Rat × Float)
  ascending : Entries.Ascending entries
  fits : ∀ entry ∈ entries, Fits64 entry.1

namespace CoverageTable

def empty : CoverageTable := ⟨[], Entries.ascending_nil, by simp⟩

def insert (table : CoverageTable) (threshold : Ratio) (deduction : Float) : CoverageTable :=
  ⟨Entries.insert threshold.1 deduction table.entries,
    Entries.update_ascending table.ascending, fun entry member => by
      rcases Entries.mem_update member with same | old
      · exact same ▸ threshold.2
      · exact table.fits entry old⟩

/-- Of two deductions for one threshold the later wins. -/
def ofPairs (pairs : List (Ratio × Float)) : CoverageTable :=
  pairs.foldl (fun table pair => table.insert pair.1 pair.2) empty

def isEmpty (table : CoverageTable) : Bool := table.entries.isEmpty

/-- The deduction of the highest threshold that was reached, or of the lowest if none was. -/
def deductionFor (table : CoverageTable) (coverage : Rat) : Option Float :=
  match table.entries.getLast? with
  | none => none
  | some highest =>
    if highest.1 < coverage then none
    else ((table.entries.filter (·.1 ≤ coverage)).getLast?.or table.entries.head?).map (·.2)

/-- The deductions by the text of their thresholds, in ascending order of text. -/
def toTexts (table : CoverageTable) : List (String × Float) :=
  Entries.ofPairs (table.entries.map fun entry => (Ratio.text entry.1, entry.2))

def parsePairs : List (String × Float) → Except Ratio.Fault (List (Ratio × Float))
  | [] => .ok []
  | (text, deduction) :: rest => do
    let threshold ← Ratio.parse text
    return (threshold, deduction) :: (← parsePairs rest)

/-- Reads the thresholds one after the other. -/
def ofTexts (texts : List (String × Float)) : Except Ratio.Fault CoverageTable :=
  (parsePairs texts).map ofPairs

end CoverageTable

end MazeGrader
