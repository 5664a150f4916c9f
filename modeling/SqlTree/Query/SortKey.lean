import SqlTree.Expr

/-! Keys by which rows are sorted. -/
namespace SqlTree
open Doc

inductive Direction where
  | ascending | descending
  deriving DecidableEq

instance : Spelled Direction where
  keyword
    | .ascending => "ASC"
    | .descending => "DESC"

inductive NullsPlace where
  | first | last
  deriving DecidableEq

instance : Spelled NullsPlace where
  keyword
    | .first => "NULLS FIRST"
    | .last => "NULLS LAST"

structure SortKey where
  expr : Expr
  direction : Option Direction := none
  nulls : Option NullsPlace := none

def SortKey.doc (k : SortKey) : Doc :=
  k.expr.doc ++ after k.direction keyword ++ after k.nulls keyword

end SqlTree
