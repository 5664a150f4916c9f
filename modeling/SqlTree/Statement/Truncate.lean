import SqlTree.Name

/-! Statements that empty tables. -/
namespace SqlTree
open Doc

/-- What becomes of the sequences behind identity columns. -/
inductive IdentityRestart where
  | keep | restart
  deriving DecidableEq

instance : Spelled IdentityRestart where
  keyword
    | .keep => "CONTINUE IDENTITY"
    | .restart => "RESTART IDENTITY"

/-- What becomes of tables that refer to the emptied ones. -/
inductive DropBehavior where
  | cascade | restrict
  deriving DecidableEq

instance : Spelled DropBehavior where
  keyword
    | .cascade => "CASCADE"
    | .restrict => "RESTRICT"

structure Truncate where
  tables : List TableName
  identity : Option IdentityRestart := none
  behavior : Option DropBehavior := none
  deriving DecidableEq

def Truncate.doc (t : Truncate) : Doc :=
  if t.tables.isEmpty then missing "TRUNCATE" "table"
  else
    text "TRUNCATE TABLE" ++ space ++ list (t.tables.map (·.doc))
      ++ after t.identity keyword ++ after t.behavior keyword

end SqlTree
