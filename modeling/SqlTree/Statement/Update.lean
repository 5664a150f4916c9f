import SqlTree.Name
import SqlTree.Statement.Assignment

/-! Statements that change and delete rows. -/
namespace SqlTree
open Doc

structure Update where
  table : TableName
  «alias» : Option Ident := none
  assignments : List Assignment := []
  filter : Option RowFilter := none

namespace Update

def assign (u : Update) (a : Assignment) : Update :=
  { u with assignments := u.assignments ++ [a] }

/-- Without an assignment there is nothing to write. -/
def doc (u : Update) : Doc :=
  if u.assignments.isEmpty then missing "UPDATE" "assignment"
  else
    text "UPDATE" ++ space ++ u.table.doc ++ clause "AS" u.alias ident ++ space
      ++ text "SET" ++ space ++ list (u.assignments.map (·.doc))
      ++ after u.filter (·.doc)

end Update

structure Delete where
  table : TableName
  /-- Leaves out the rows of tables that inherit from this one. -/
  only : Bool := false
  «alias» : Option Ident := none
  filter : Option RowFilter := none

def Delete.doc (d : Delete) : Doc :=
  text "DELETE FROM" ++ space ++ (if d.only then text "ONLY" ++ space else []) ++ d.table.doc
    ++ clause "AS" d.alias ident ++ after d.filter (·.doc)

end SqlTree
