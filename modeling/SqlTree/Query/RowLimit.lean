import SqlTree.Doc

/-! How many rows of a result are skipped and taken. -/
namespace SqlTree
open Doc

inductive RowsKeyword where
  | row | rows
  deriving DecidableEq

instance : Spelled RowsKeyword where
  keyword
    | .row => "ROW"
    | .rows => "ROWS"

def RowsKeyword.ofCount (n : UInt64) : RowsKeyword :=
  if 1 < n then .rows else .row

structure Offset where
  count : UInt64
  suffix : Option RowsKeyword := none
  deriving DecidableEq

def Offset.doc (o : Offset) : Doc :=
  text "OFFSET" ++ space ++ uint o.count ++ after o.suffix keyword

structure Fetch where
  count : UInt64
  percent : Bool := false
  /-- Whether rows that sort like the last one are taken too. -/
  withTies : Bool := false
  deriving DecidableEq

def Fetch.doc (f : Fetch) : Doc :=
  text "FETCH NEXT" ++ space ++ uint f.count
    ++ (if f.percent then space ++ text "PERCENT" else [])
    ++ space ++ keyword (RowsKeyword.ofCount f.count)
    ++ space ++ text (if f.withTies then "WITH TIES" else "ONLY")

end SqlTree
