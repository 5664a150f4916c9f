import SqlTree.Name

/-! Locks on the rows that a query returns. -/
namespace SqlTree
open Doc

inductive LockMode where
  | update | noKeyUpdate | share | keyShare
  deriving DecidableEq

instance : Spelled LockMode where
  keyword
    | .update => "UPDATE"
    | .noKeyUpdate => "NO KEY UPDATE"
    | .share => "SHARE"
    | .keyShare => "KEY SHARE"

/-- What a query does about rows that others have locked. -/
inductive LockWait where
  | seconds (n : UInt64)
  | noWait
  | skipLocked
  deriving DecidableEq

def LockWait.doc : LockWait → Doc
  | .seconds n => text "WAIT" ++ space ++ uint n
  | .noWait => text "NOWAIT"
  | .skipLocked => text "SKIP LOCKED"

structure Lock where
  mode : LockMode
  tables : List TableName := []
  wait : Option LockWait := none
  deriving DecidableEq

def Lock.doc (l : Lock) : Doc :=
  text "FOR" ++ space ++ keyword l.mode
    ++ listClause "OF" (l.tables.map (·.doc))
    ++ after l.wait (·.doc)

end SqlTree
