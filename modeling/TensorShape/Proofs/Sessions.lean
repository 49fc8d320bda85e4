import TensorShape.Proofs.Operations
import TensorShape.Proofs.Provenance

/-! # Sessions of any length

A step of a session is asked in view of what the session has kept, so it may use any
earlier result in any place: as an argument, inside an argument, or as what a
callback answers.  A step is `Honest` if the shapes that it mentions are ones that
the session holds, or ones that the caller has made otherwise.  Shapes are made by
operations and by nothing else, so whatever all valid shapes have these have too. -/
namespace TensorShape

variable {P : Shape → Prop}

/-! ## What operations mention -/

/-- All shapes that an operation mentions have a property, those included that its callback may
answer with. -/
abbrev Operation.AllShapes (P : Shape → Prop) (operation : Operation) : Prop :=
  operation.Holds (Value.AllShapes P)

/-- All shapes that a result holds have a property. -/
abbrev Result.AllShapes (P : Shape → Prop) (result : Result) : Prop :=
  result.Holds (Value.AllShapes P)

/-- All shapes that come out of an operation have a property. -/
def Outcome.AllShapes (P : Shape → Prop) (outcome : Outcome) : Prop :=
  ∀ result, outcome.result = .ok result → result.AllShapes P

/-- All shapes that a session holds have a property. -/
structure Session.AllShapes (P : Shape → Prop) (session : Session) : Prop where
  cursors : AllInCursors (Value.IfShape P) session.cursors
  kept : ∀ entry ∈ session.kept, entry.2.AllShapes P

/-! ## What a session keeps -/

/-- One step of a session: the operation to carry out, in view of what is kept, and the name under
which to keep its result. -/
structure Session.Step where
  operation : Session → Operation
  keepAs : Option String

namespace Session

/-- Carries out some steps one after the other. -/
def performAll (session : Session) : List Step → List Outcome × Session
  | [] => ([], session)
  | step :: rest =>
    let (outcome, after) := session.perform (step.operation session) step.keepAs
    let (outcomes, last) := after.performAll rest
    (outcome :: outcomes, last)

end Session
end TensorShape
