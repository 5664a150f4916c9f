import SqlTree.Proofs.Defect
import SqlTree.Statement.Merge
import SqlTree.Statement.Truncate
import SqlTree.Statement.Update

/-! The defects of the statements that change data. Where a statement refuses to be written at all,
the reason comes before the defects of its parts. -/
namespace SqlTree

/-- The first row that has another length than `expected`, if the rows are counted from `n`. -/
def lengthDefect? (expected n : Nat) : List (List Expr) → Option RenderError
  | [] => none
  | row :: rows =>
    if row.length = expected then lengthDefect? expected (n + 1) rows
    else some (.invalid "INSERT" (.rowLength (some n) row.length expected))

def rowDefect? (row : List Expr) : Option RenderError :=
  (absent? "VALUES" "value" row).or (Expr.defectAll? row)

namespace InsertSource

/-- What does not go with a list of so many columns. -/
def columnDefect? (columns : Nat) : InsertSource → Option RenderError
  | .defaultValues => some (.invalid "INSERT" .columnsWithDefaultValues)
  | .values rows => lengthDefect? columns 1 rows
  | .query _ => none

def defect? : InsertSource → Option RenderError
  | .defaultValues => none
  | .values rows => (absent? "VALUES" "row" rows).or (rows.findSome? rowDefect?)
  | .query q => q.defect?

end InsertSource

def Insert.defect? (i : Insert) : Option RenderError :=
  match i.columns with
  | [] => i.source.defect?
  | columns => (i.source.columnDefect? columns.length).or i.source.defect?

def Assignment.defect? : Assignment → Option RenderError
  | .column _ value => value.defect?
  | .row columns value => (absent? "assignment" "column" columns).or value.defect?
  | .raw _ => none

def RowFilter.defect? : RowFilter → Option RenderError
  | .search condition => condition.defect?
  | .currentOf _ => none

def Update.defect? (u : Update) : Option RenderError :=
  (absent? "UPDATE" "assignment" u.assignments)
    |>.or (u.assignments.findSome? (·.defect?))
    |>.or (u.filter.bind (·.defect?))

def Delete.defect? (d : Delete) : Option RenderError :=
  d.filter.bind (·.defect?)

def Truncate.defect? (t : Truncate) : Option RenderError :=
  absent? "TRUNCATE" "table" t.tables

def MatchedAction.defect? : MatchedAction → Option RenderError
  | .update assignments =>
    (absent? "UPDATE SET" "assignment" assignments).or (assignments.findSome? (·.defect?))
  | _ => none

/-- An empty row is missing its values, whatever the columns are. -/
def MergeInsert.defect? (i : MergeInsert) : Option RenderError :=
  match i.columns, i.values with
  | [], none => none
  | _, none => some (.invalid "INSERT" .columnsWithDefaultValues)
  | [], some row => rowDefect? row
  | columns, some row =>
    (absent? "VALUES" "value" row)
      |>.or (if row.length = columns.length then none
        else some (.invalid "INSERT" (.rowLength none row.length columns.length)))
      |>.or (Expr.defectAll? row)

def NotMatchedAction.defect? : NotMatchedAction → Option RenderError
  | .insert i => i.defect?
  | .doNothing => none

def MergeWhen.defect? : MergeWhen → Option RenderError
  | .matched w => (w.condition.bind (·.defect?)).or w.action.defect?
  | .notMatched w => (w.condition.bind (·.defect?)).or w.action.defect?

def Merge.defect? (m : Merge) : Option RenderError :=
  (absent? "MERGE" "source" m.source.toList)
    |>.or (m.source.bind (·.defect?))
    |>.or (absent? "MERGE" "join condition" m.on.toList)
    |>.or (m.on.bind (·.defect?))
    |>.or (absent? "MERGE" "WHEN clause" m.clauses)
    |>.or (m.clauses.findSome? (·.defect?))

end SqlTree
