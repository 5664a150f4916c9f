import SqlTree.Decimal.Positional
import SqlTree.Ident

/-! Why a tree has no SQL text. -/
namespace SqlTree

/-- A way in which the parts of a node do not fit together. -/
inductive Problem where
  | notFinite (value : Decimal.NonFinite)
  | noColumnOptions (column : Ident)
  | columnsWithDefaultValues
  /-- A row of values has another length than the column list. Rows count from one; a statement
  that takes a single row has no number for it. -/
  | rowLength (row : Option Nat) (found expected : Nat)
  | frameStartsUnbounded
  | frameEndsUnbounded
  | frameStartsFollowing
  | other (reason : String)
  deriving DecidableEq

def Problem.reason : Problem → String
  | .notFinite value => value.name ++ " is not finite"
  | .noColumnOptions column => "\x60" ++ column.name ++ "\x60 has no options"
  | .columnsWithDefaultValues => "a column list cannot be combined with DEFAULT VALUES"
  | .rowLength row found expected =>
    let row := match row with
      | some i => "row " ++ i.repr
      | none => "row"
    let noun := if found = 1 then "value" else "values"
    row ++ " has " ++ found.repr ++ " " ++ noun ++ ", expected " ++ expected.repr
  | .frameStartsUnbounded => "a frame cannot start at UNBOUNDED FOLLOWING"
  | .frameEndsUnbounded => "a frame cannot end at UNBOUNDED PRECEDING"
  | .frameStartsFollowing => "a frame without BETWEEN cannot start at a following row"
  | .other reason => reason

inductive RenderError where
  /-- A node lacks a part that it cannot do without. -/
  | missing (node child : String)
  | invalid (node : String) (problem : Problem)
  deriving DecidableEq

namespace RenderError

def node : RenderError → String
  | missing node _ => node
  | invalid node _ => node

def message : RenderError → String
  | missing node child => node ++ ": required " ++ child ++ " is absent"
  | invalid node problem => node ++ ": " ++ problem.reason

end RenderError
end SqlTree
