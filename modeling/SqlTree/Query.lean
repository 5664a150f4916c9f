import SqlTree.Query.Grouping
import SqlTree.Query.Lock
import SqlTree.Query.RowLimit
import SqlTree.Query.Source
import SqlTree.Query.Window

/-! Queries and the tables that they read, which may be queries again. -/
namespace SqlTree
open Doc

inductive SelectItem where
  | all
  | allOf (table : TableName)
  | expr (e : Expr) (label : Option Ident)

def SelectItem.doc : SelectItem → Doc
  | .all => text "*"
  | .allOf table => table.doc ++ dot ++ text "*"
  | .expr e label => e.doc ++ clause "AS" label ident

mutual

inductive TableRef where
  | table (t : NamedTable)
  | derived (query : Query) (label : Option Alias)
  | nested (inner : TableRef) (label : Option Alias)
  | cross (left right : TableRef)
  | qualified (left : TableRef) (kind : JoinKind) (right : TableRef) (spec : JoinSpec)
  | natural (left : TableRef) (kind : JoinKind) (right : TableRef)

structure Query where
  quantifier : Option SetQuantifier := none
  items : List SelectItem := []
  tables : List TableRef := []
  condition : Option Expr := none
  groupBy : Option GroupBy := none
  having : Option Expr := none
  windows : List WindowDef := []
  orderBy : List SortKey := []
  limit : Option UInt64 := none
  offset : Option Offset := none
  fetch : Option Fetch := none
  lock : Option Lock := none

end

mutual

def TableRef.doc : TableRef → Doc
  | .table t => t.doc
  | .derived query label =>
    paren query.doc ++ space ++ requiredPart "derived table" "alias" label (·.doc)
  | .nested inner label => paren inner.doc ++ after label (·.doc)
  | .cross left right => left.doc ++ space ++ text "CROSS JOIN" ++ space ++ right.doc
  | .qualified left kind right spec =>
    left.doc ++ space ++ kind.joinDoc ++ space ++ right.doc ++ space ++ spec.doc
  | .natural left kind right =>
    left.doc ++ space ++ text "NATURAL" ++ space ++ kind.joinDoc ++ space ++ right.doc

def TableRef.docs : List TableRef → List Doc
  | [] => []
  | t :: ts => t.doc :: TableRef.docs ts

def Query.doc : Query → Doc
  | { quantifier, items, tables, condition, groupBy, having, windows, orderBy, limit, offset,
      fetch, lock } =>
    text "SELECT" ++ after quantifier keyword ++ space
      ++ required "SELECT" "select list" (items.map (·.doc))
      ++ listClause "FROM" (TableRef.docs tables)
      ++ clause "WHERE" condition (·.doc)
      ++ after groupBy (·.doc)
      ++ clause "HAVING" having (·.doc)
      ++ listClause "WINDOW" (windows.map (·.doc))
      ++ listClause "ORDER BY" (orderBy.map (·.doc))
      ++ clause "LIMIT" limit uint
      ++ after offset (·.doc)
      ++ after fetch (·.doc)
      ++ after lock (·.doc)

end

end SqlTree
