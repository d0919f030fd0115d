import DataAccess.Proofs.Evaluation.Recording
import DataAccess.Proofs.Members.Mutation
import DataAccess.Proofs.Members.Paging
import DataAccess.Proofs.Members.Serialization
import DataAccess.Proofs.Sql.Placeholders

/-!
# Bound values and their placeholders

Statements are put together from pieces, and bound values from columns. A call of a method records
nothing, or one statement with one bound value for each placeholder, and each value belongs to the
column that its placeholder stands for (`Deployment.call_records`). What `Sends` says of each kind
of method lists both in order: what is read in the text of the statement, and what is bound.
-/

namespace DataAccess.Members

open Code Schema Evaluation Sql

namespace Plan

variable (plan : Plan)

/-- The names and placeholders in the statement of a request. -/
def reads (request : Request) : List Lexeme :=
  plan.options.sqlStyle.dialect.read request.sql

end Plan

namespace Deployment

variable {site : Deployment}

section Mutators

variable {object : Value} {args : List Value} {request : Request}

end Mutators

/-- What a call of a method ends with: of the class, or of an object. -/
def call (site : Deployment) (name : String) (args : List Value) : Option Value → Eval Value
  | none => site.scene.callStatic name args
  | some object => do
    let (result, _) ← site.scene.callOnObject object name args
    pure result

/-- A call of a method runs it, on the class or on the object. -/
theorem call_of_mem {method : Method} (member : method ∈ site.recordClass.methods)
    (args : List Value) (this : Option Value) :
    site.call method.name args this =
      (invoke (site.scene.surroundings Scene.callLimit) method this args >>= fun outcome =>
        pure outcome.1) := by
  cases this with
  | none => exact callStatic_of_mem member args
  | some object =>
      rw [call, callOnObject_of_mem member]
      simp only [bind_assoc, pure_bind]

/-- Where the class has no method of the name, calls fail in the same way on the class and on
objects. -/
theorem call_of_absent {name : String} (absent : site.recordClass.method? name = none)
    (args : List Value) (this : Option Value) :
    site.call name args this = throw (.unknownMethod site.plan.className name) := by
  cases this with
  | none =>
      rw [call, Scene.callStatic, Scene.callStaticIn, Scene.method, scene_recordClass, absent,
        name_recordClass]
      rfl
  | some object =>
      rw [call, Scene.callOnObject, Scene.method, scene_recordClass, absent, name_recordClass]
      rfl

end Deployment

end DataAccess.Members
