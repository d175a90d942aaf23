import MazeGrader.Assignment.Criteria
import MazeGrader.Assignment.Deduction
import MazeGrader.Assignment.Grading
import MazeGrader.Assignment.MapTest
import MazeGrader.Assignment.Overview
import MazeGrader.Assignment.Registry
import MazeGrader.Assignment.Report
import MazeGrader.Assignment.Submission
import MazeGrader.Command.Demand
import MazeGrader.Command.EnvFile
import MazeGrader.Command.EnvLines
import MazeGrader.Command.Invocation
import MazeGrader.Command.Session
import MazeGrader.Command.Settings
import MazeGrader.Command.Token
import MazeGrader.Coverage.Grader
import MazeGrader.Coverage.Ratio
import MazeGrader.Coverage.Table
import MazeGrader.Coverage.TableJson
import MazeGrader.Decimal.Binary
import MazeGrader.Decimal.Layout
import MazeGrader.Decimal.Shortest
import MazeGrader.Failure
import MazeGrader.Files.FileSystem
import MazeGrader.Files.Path
import MazeGrader.Files.Snapshot
import MazeGrader.Files.Tree
import MazeGrader.Json.Decode
import MazeGrader.Json.Draft
import MazeGrader.Json.Number
import MazeGrader.Json.Reader
import MazeGrader.Json.Value
import MazeGrader.Json.Writer
import MazeGrader.Main
import MazeGrader.Maze.Drawing
import MazeGrader.Maze.Grid
import MazeGrader.Maze.Run
import MazeGrader.Maze.StartPosition
import MazeGrader.Ordered.Entries
import MazeGrader.Proofs.Assignment.Grades
import MazeGrader.Proofs.Assignment.Skeleton
import MazeGrader.Proofs.Assignment.UnusedRules
import MazeGrader.Proofs.Assignment.Verdict
import MazeGrader.Proofs.Assignment.WriteBack
import MazeGrader.Proofs.Coverage.Floor
import MazeGrader.Proofs.Coverage.Rereading
import MazeGrader.Proofs.Coverage.Spelling
import MazeGrader.Proofs.Coverage.Thresholds
import MazeGrader.Proofs.Json.ReadBack
import MazeGrader.Proofs.Maze.Bookkeeping
import MazeGrader.Proofs.Maze.Composition
import MazeGrader.Proofs.Maze.Connection
import MazeGrader.Proofs.Maze.Failing
import MazeGrader.Proofs.Maze.LeftmostPair
import MazeGrader.Proofs.Maze.Looping
import MazeGrader.Proofs.Maze.Marking
import MazeGrader.Proofs.Maze.Perception
import MazeGrader.Proofs.Maze.Redrawing
import MazeGrader.Proofs.Maze.Refinement
import MazeGrader.Proofs.Maze.Reflection
import MazeGrader.Proofs.Maze.Simulation
import MazeGrader.Proofs.Maze.Sweep
import MazeGrader.Proofs.Maze.Visits
import MazeGrader.Proofs.Maze.Walk
import MazeGrader.Proofs.Rules.Compiled
import MazeGrader.Proofs.Rules.Entry
import MazeGrader.Proofs.Rules.Extension
import MazeGrader.Proofs.Rules.FirstFault
import MazeGrader.Proofs.Rules.Grammar
import MazeGrader.Proofs.Rules.Layout
import MazeGrader.Proofs.Rules.Listing
import MazeGrader.Proofs.Rules.WriteOnce
import MazeGrader.Rules.Compile
import MazeGrader.Rules.Fault
import MazeGrader.Rules.Rule
import MazeGrader.Rules.RuleLine
import MazeGrader.Rules.RuleTable
import MazeGrader.Rules.Surroundings
import MazeGrader.Text.Alphanumeric
import MazeGrader.Text.Blank
import MazeGrader.Text.CodeRange
import MazeGrader.Text.Columns
import MazeGrader.Text.Emoji
import MazeGrader.Text.Joining
import MazeGrader.Text.Lines
import MazeGrader.Text.Measure
import MazeGrader.Text.Numeral
import MazeGrader.Text.Quoted
import MazeGrader.Text.Span
import MazeGrader.Text.Split
import MazeGrader.Text.Unassigned
import MazeGrader.Text.Unprintable
import MazeGrader.Text.Wrap
import MazeGrader.Traced
