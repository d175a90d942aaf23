import MazeGrader.Files.FileSystem
import MazeGrader.Json.Draft
import MazeGrader.Rules.Fault

/-! Why a grading run was given up: a cause, and what was being done, the outermost first. -/
namespace MazeGrader

def Json.Fault.message : Json.Fault → String
  | .malformed => "json syntax"
  | .cut => "json eof"
  | .data text => text

inductive Cause where
  | rules (fault : Fault)
  | file (fault : ReadFault)
  | json (fault : Json.Fault)
  | startPosition
  | other (text : String)
  deriving DecidableEq, Repr

/-- The text of a cause, if it says more than what was being done. -/
def Cause.message? : Cause → Option String
  | .rules fault => some fault.message
  | .file fault => some fault.message
  | .json fault => some fault.message
  | .startPosition => none
  | .other text => some text

structure Failure where
  contexts : List String
  cause : Cause
  deriving DecidableEq, Repr

namespace Failure

def of (cause : Cause) : Failure := ⟨[], cause⟩

def ofText (text : String) : Failure := of (.other text)

def within (context : String) (failure : Failure) : Failure :=
  ⟨context :: failure.contexts, failure.cause⟩

def texts (failure : Failure) : List String := failure.contexts ++ failure.cause.message?.toList

/-- The outermost text. -/
def message (failure : Failure) : String := failure.texts.headD ""

end Failure

/-- Says what was being done when a step failed. -/
def inContext (context : String) (result : Except Failure α) : Except Failure α :=
  result.mapError (·.within context)

def giveUp (cause : ε → Cause) (result : Except ε α) : Except Failure α :=
  result.mapError fun fault => .of (cause fault)

@[simp] theorem ok_bind (value : α) (next : α → Except ε β) :
    (Except.ok value >>= next) = next value := rfl

@[simp] theorem error_bind (fault : ε) (next : α → Except ε β) :
    (Except.error fault >>= next) = .error fault := rfl

theorem bind_eq_ok {first : Except ε α} {next : α → Except ε β} {value : β} :
    (first >>= next) = .ok value ↔ ∃ middle, first = .ok middle ∧ next middle = .ok value := by
  cases first <;> simp

/-- Two steps fail where the first does, or the second after it. -/
theorem bind_eq_error {first : Except ε α} {next : α → Except ε β} {fault : ε} :
    (first >>= next) = .error fault ↔
      first = .error fault ∨ ∃ middle, first = .ok middle ∧ next middle = .error fault := by
  cases first <;> simp

@[simp] theorem inContext_eq_ok {context : String} {result : Except Failure α} {value : α} :
    inContext context result = .ok value ↔ result = .ok value := by
  cases result with
  | ok _ => rfl
  | error _ => exact iff_of_false nofun nofun

@[simp] theorem giveUp_eq_ok {cause : ε → Cause} {result : Except ε α} {value : α} :
    giveUp cause result = .ok value ↔ result = .ok value := by
  cases result with
  | ok found =>
    show Except.ok found = Except.ok value ↔ _
    simp only [Except.ok.injEq]
  | error _ => exact iff_of_false nofun nofun

end MazeGrader
