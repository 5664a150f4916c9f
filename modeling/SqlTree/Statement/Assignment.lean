import SqlTree.Expr

/-! New values for columns, and the rows that a statement changes. -/
namespace SqlTree
open Doc

inductive Assignment where
  | column (name : Ident) (value : Expr)
  /-- Several columns at once. -/
  | row (columns : List Ident) (value : Expr)
  | raw (text : String)

namespace Assignment

def doc : Assignment → Doc
  | .column name value => ident name ++ space ++ Doc.text "=" ++ space ++ value.doc
  | .row columns value =>
    paren (required "assignment" "column" (columns.map ident)) ++ space ++ Doc.text "=" ++ space
      ++ value.doc
  | .raw s => verbatim s

end Assignment

inductive RowFilter where
  | search (condition : Expr)
  /-- The row at which a cursor stands. -/
  | currentOf (cursor : Ident)

def RowFilter.doc : RowFilter → Doc
  | .search condition => text "WHERE" ++ space ++ condition.doc
  | .currentOf cursor =>
    text "WHERE" ++ space ++ text "CURRENT OF" ++ space ++ ident cursor

end SqlTree
