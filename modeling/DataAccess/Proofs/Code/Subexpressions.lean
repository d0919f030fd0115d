import DataAccess.Code.Expr

/-!
# Subexpressions

The expressions that an expression is directly made of. Every part of an expression is reached
through them (`Expr.parts_eq`), and what holds of an expression as soon as it holds of its children
holds of all expressions (`Expr.ofChildren`).
-/

namespace DataAccess.Code

namespace Expr

/-- The expressions that an expression is directly made of, in the order of their text. -/
def children : Expr → List Expr
  | .field target _ | .index target _ => [target]
  | .list items => items
  | .map entries => entries.map Prod.snd
  | .greater left right | .equal left right => [left, right]
  | .ternary condition whenTrue whenFalse => [condition, whenTrue, whenFalse]
  | .isNull value | .isEmpty value | .first value | .cast value _ | .await value
  | .parseTimestamp value | .formatTimestamp value _ => [value]
  | .call target _ args => target :: args
  | .selfCall _ args | .new _ args => args
  | .mapRows source _ _ body => [source, body]
  | .var _ | .this | .text _ | .int _ | .bool _ | .null => []

theorem partsOfAll_eq (items : List Expr) : partsOfAll items = items.flatMap parts := by
  induction items with
  | nil => rfl
  | cons item items ih => rw [partsOfAll, ih, List.flatMap_cons]

theorem partsOfEntries_eq (entries : List (String × Expr)) :
    partsOfEntries entries = (entries.map Prod.snd).flatMap parts := by
  induction entries with
  | nil => rfl
  | cons entry entries ih =>
      obtain ⟨key, value⟩ := entry
      rw [partsOfEntries, partsOfEntry, ih, List.map_cons, List.flatMap_cons]

/-- The parts of an expression are itself and the parts of its children. -/
theorem parts_eq (expr : Expr) : expr.parts = expr :: expr.children.flatMap parts := by
  cases expr <;> simp [parts, children, partsOfAll_eq, partsOfEntries_eq]

theorem sizeOf_lt_of_mem_children {expr child : Expr} (member : child ∈ expr.children) :
    sizeOf child < sizeOf expr := by
  cases expr with
  | map entries =>
      obtain ⟨⟨key, value⟩, inEntries, rfl⟩ := List.mem_map.mp member
      have smaller := List.sizeOf_lt_of_mem inEntries
      simp only [map.sizeOf_spec, Prod.mk.sizeOf_spec] at smaller ⊢
      omega
  | list items =>
      have smaller : sizeOf child < sizeOf items := List.sizeOf_lt_of_mem member
      simp only [list.sizeOf_spec]
      omega
  | selfCall method args =>
      have smaller : sizeOf child < sizeOf args := List.sizeOf_lt_of_mem member
      simp only [selfCall.sizeOf_spec]
      omega
  | new className args =>
      have smaller : sizeOf child < sizeOf args := List.sizeOf_lt_of_mem member
      simp only [new.sizeOf_spec]
      omega
  | call target method args =>
      rcases List.mem_cons.mp member with rfl | member
      · simp only [call.sizeOf_spec]
        omega
      · have smaller : sizeOf child < sizeOf args := List.sizeOf_lt_of_mem member
        simp only [call.sizeOf_spec]
        omega
  | _ => simp only [children, List.mem_cons, List.not_mem_nil, or_false] at member <;> grind

/-- What holds of an expression when it holds of its children holds of every expression. -/
theorem ofChildren {motive : Expr → Prop}
    (step : ∀ expr, (∀ child ∈ expr.children, motive child) → motive expr) (expr : Expr) :
    motive expr :=
  step expr fun child _ => ofChildren step child
termination_by sizeOf expr
decreasing_by exact sizeOf_lt_of_mem_children ‹_›

/-- The same for expressions all of whose parts have a property. -/
theorem ofParts {holds motive : Expr → Prop}
    (step : ∀ expr, holds expr → (∀ child ∈ expr.children, motive child) → motive expr)
    {expr : Expr} (parts : ∀ part ∈ expr.parts, holds part) : motive expr := by
  induction expr using ofChildren with
  | step expr ih =>
      rw [parts_eq] at parts
      obtain ⟨itself, inside⟩ := List.forall_mem_cons.mp parts
      refine step expr itself fun child member => ih child member fun part inChild => ?_
      exact inside part (List.mem_flatMap_of_mem member inChild)

end Expr

end DataAccess.Code
