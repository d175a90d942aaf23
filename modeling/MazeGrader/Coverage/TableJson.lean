import MazeGrader.Coverage.Table
import MazeGrader.Json.Decode

/-! Coverage tables as JSON objects from the text of a threshold to its deduction. All
deductions are read before the first threshold is. -/
namespace MazeGrader.CoverageTable

def decode (draft : Json.Draft) : Except Json.Fault CoverageTable := do
  let texts ← Json.decodeMap Json.decodeFloat draft
  (ofTexts texts).mapError fun fault => .data fault.message

def toJson (table : CoverageTable) : Json :=
  .object (table.toTexts.map fun entry => (entry.1, Json.ofFloat entry.2))

def parse (text : String) : Except Json.Fault CoverageTable :=
  (Json.readDocument text).decode decode

end MazeGrader.CoverageTable
