/-! Values that take shape step by step. -/
namespace SqlTree

/-- A value to start from and the changes that are made to it, in order. -/
structure Draft (α : Type) where
  start : α
  changes : List (α → α) := []

namespace Draft
variable {α : Type}

def result (d : Draft α) : α :=
  d.changes.foldl (fun a change => change a) d.start

/-- The start and what each change makes of it. -/
def states (d : Draft α) : List α :=
  go d.start d.changes
where
  go (a : α) : List (α → α) → List α
    | [] => [a]
    | change :: changes => a :: go (change a) changes

end Draft
end SqlTree
