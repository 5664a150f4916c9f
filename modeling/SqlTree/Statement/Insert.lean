import SqlTree.Query

/-! Statements that insert rows. -/
namespace SqlTree
open Doc

/-- Whose value goes to a generated column. -/
inductive Overriding where
  | userValue | systemValue
  deriving DecidableEq

instance : Spelled Overriding where
  keyword
    | .userValue => "OVERRIDING USER VALUE"
    | .systemValue => "OVERRIDING SYSTEM VALUE"

inductive InsertSource where
  | defaultValues
  | values (rows : List (List Expr))
  | query (q : Query)

/-- The values of one row between parentheses. -/
def Doc.valuesRow (row : List Expr) : Doc :=
  paren (required "VALUES" "value" (Expr.docs row))

/-- One row stands on the same line, several rows stand on lines of their own. -/
def InsertSource.doc : InsertSource → Doc
  | .defaultValues => text "DEFAULT VALUES"
  | .values [] => text "VALUES" ++ missing "VALUES" "row"
  | .values [row] => text "VALUES" ++ space ++ valuesRow row
  | .values rows => text "VALUES" ++ lines (rows.map (text "ROW" ++ valuesRow ·))
  | .query q => q.doc

structure Insert where
  table : TableName
  columns : List Ident := []
  overriding : Option Overriding := none
  source : InsertSource := .defaultValues

/-- The first row, counted from one, that has another length than `expected`. -/
def unevenRow? (expected : Nat) (rows : List (List Expr)) : Option Problem :=
  (rows.zipIdx 1).findSome? fun (row, i) =>
    if row.length = expected then none else some (.rowLength (some i) row.length expected)

/-- What a statement says between its verb and its values. -/
def Doc.insertColumns (columns : List Ident) (overriding : Option Overriding) : Doc :=
  (if columns.isEmpty then [] else paren (list (columns.map ident)) ++ space)
    ++ optional overriding (keyword · ++ space)

namespace Insert

/-- A column list asks for values, and for one value per column in each row. -/
def problem? (i : Insert) : Option Problem :=
  if i.columns.isEmpty then none
  else
    match i.source with
    | .defaultValues => some .columnsWithDefaultValues
    | .values rows => unevenRow? i.columns.length rows
    | .query _ => none

def doc (i : Insert) : Doc :=
  match i.problem? with
  | some problem => invalid "INSERT" problem
  | none =>
    text "INSERT INTO" ++ space ++ i.table.doc ++ space
      ++ insertColumns i.columns i.overriding ++ i.source.doc

inductive Change where
  | columns (names : List Ident)
  | overriding (o : Overriding)
  | values (row : List Expr)
  | query (q : Query)
  | defaultValues

/-- Rows of values add up, everything else is replaced. -/
def change (i : Insert) : Change → Insert
  | .columns names => { i with columns := names }
  | .overriding o => { i with overriding := some o }
  | .values row =>
    match i.source with
    | .values rows => { i with source := .values (rows ++ [row]) }
    | _ => { i with source := .values [row] }
  | .query q => { i with source := .query q }
  | .defaultValues => { i with source := .defaultValues }

def build (table : TableName) (changes : List Change) : Insert :=
  changes.foldl change { table }

end Insert
end SqlTree
