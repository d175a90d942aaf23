/-! Answers with the records that were made on the way to them. -/
namespace MazeGrader

inductive Level where
  | info
  | warn
  deriving DecidableEq, Repr

/-- The part of the program that makes a record. -/
inductive Origin where
  | grading
  | testing
  | simulation
  deriving DecidableEq, Repr

structure Record where
  level : Level
  origin : Origin
  message : String
  fields : List (String × String)
  deriving DecidableEq, Repr

/-- The records stay when the answer is an error. -/
structure Traced (ε : Type) (α : Type) where
  records : List Record
  answer : Except ε α

namespace Traced

def bind (first : Traced ε α) (next : α → Traced ε β) : Traced ε β :=
  match first.answer with
  | .ok a =>
    let second := next a
    ⟨first.records ++ second.records, second.answer⟩
  | .error e => ⟨first.records, .error e⟩

instance : Monad (Traced ε) where
  pure a := ⟨[], .ok a⟩
  bind := bind

/-- An answer without records. -/
def silent (answer : Except ε α) : Traced ε α := ⟨[], answer⟩

def note (record : Record) : Traced ε Unit := ⟨[record], .ok ()⟩

def mapError (change : ε → ε') (traced : Traced ε α) : Traced ε' α :=
  ⟨traced.records, traced.answer.mapError change⟩

@[simp] theorem answer_pure (a : α) : (pure a : Traced ε α).answer = .ok a := rfl

@[simp] theorem answer_bind (first : Traced ε α) (next : α → Traced ε β) :
    (first >>= next).answer = first.answer >>= fun a => (next a).answer := by
  show (bind first next).answer = _
  unfold bind
  cases first.answer <;> rfl

@[simp] theorem answer_silent (answer : Except ε α) : (silent answer).answer = answer := rfl

@[simp] theorem answer_note (record : Record) : (note record : Traced ε Unit).answer = .ok () := rfl

end Traced

end MazeGrader
