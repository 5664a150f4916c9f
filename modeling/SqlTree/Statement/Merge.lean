import SqlTree.Statement.Assignment
import SqlTree.Statement.Insert

/-! Statements that merge one table into another. -/
namespace SqlTree
open Doc

/-- What is done with a row of the target that matches. -/
inductive MatchedAction where
  | update (assignments : List Assignment)
  | delete
  | doNothing

def MatchedAction.doc : MatchedAction → Doc
  | .update assignments =>
    text "UPDATE SET" ++ space
      ++ required "UPDATE SET" "assignment" (assignments.map (·.doc))
  | .delete => text "DELETE"
  | .doNothing => text "DO NOTHING"

/-- The head of a clause up to its action. -/
def Doc.whenHead (keyword : String) (condition : Option Expr) : Doc :=
  text keyword ++ space ++ optional condition (fun e => text "AND" ++ space ++ e.doc ++ space)
    ++ text "THEN" ++ space

structure WhenMatched where
  condition : Option Expr := none
  action : MatchedAction := .doNothing

namespace WhenMatched

def doc (w : WhenMatched) : Doc :=
  whenHead "WHEN MATCHED" w.condition ++ w.action.doc

inductive Change where
  | condition (e : Expr)
  | set (column : Ident) (value : Expr)
  | update (assignments : List Assignment)
  | delete
  | doNothing

/-- Single assignments add up, everything else is replaced. -/
def change (w : WhenMatched) : Change → WhenMatched
  | .condition e => { w with condition := some e }
  | .set column value =>
    match w.action with
    | .update assignments => { w with action := .update (assignments ++ [.column column value]) }
    | _ => { w with action := .update [.column column value] }
  | .update assignments => { w with action := .update assignments }
  | .delete => { w with action := .delete }
  | .doNothing => { w with action := .doNothing }

def build (changes : List Change) : WhenMatched :=
  changes.foldl change {}

end WhenMatched

/-- A row that is inserted where none matches; without values it has the defaults. -/
structure MergeInsert where
  columns : List Ident := []
  overriding : Option Overriding := none
  values : Option (List Expr)

namespace MergeInsert

def problem? (i : MergeInsert) : Option Problem :=
  if i.columns.isEmpty then none
  else
    match i.values with
    | none => some .columnsWithDefaultValues
    | some [] => none
    | some row =>
      if row.length = i.columns.length then none
      else some (.rowLength none row.length i.columns.length)

def doc (i : MergeInsert) : Doc :=
  match i.problem?, i.values with
  | some problem, _ => invalid "INSERT" problem
  | none, none => text "INSERT DEFAULT VALUES"
  | none, some row =>
    text "INSERT" ++ space ++ insertColumns i.columns i.overriding
      ++ text "VALUES" ++ space ++ valuesRow row

end MergeInsert

/-- What is done with a row of the source that nothing matches. -/
inductive NotMatchedAction where
  | insert (i : MergeInsert)
  | doNothing

def NotMatchedAction.doc : NotMatchedAction → Doc
  | .insert i => i.doc
  | .doNothing => text "DO NOTHING"

structure WhenNotMatched where
  condition : Option Expr := none
  action : NotMatchedAction := .doNothing

def WhenNotMatched.doc (w : WhenNotMatched) : Doc :=
  whenHead "WHEN NOT MATCHED" w.condition ++ w.action.doc

inductive MergeWhen where
  | matched (w : WhenMatched)
  | notMatched (w : WhenNotMatched)

def MergeWhen.doc : MergeWhen → Doc
  | .matched w => w.doc
  | .notMatched w => w.doc

/-- The clauses of a statement stand one after the other, without a separator. -/
def MergeWhen.docAll (clauses : List MergeWhen) : Doc :=
  spaced (clauses.map (·.doc))

structure Merge where
  target : TableName
  «alias» : Option Ident := none
  source : Option TableRef := none
  on : Option Expr := none
  clauses : List MergeWhen := []

def Merge.addClause (m : Merge) (w : MergeWhen) : Merge :=
  { m with clauses := m.clauses ++ [w] }

def Merge.doc (m : Merge) : Doc :=
  text "MERGE INTO" ++ space ++ m.target.doc ++ clause "AS" m.alias ident ++ space
    ++ text "USING" ++ space ++ requiredPart "MERGE" "source" m.source (·.doc) ++ space
    ++ text "ON" ++ space ++ requiredPart "MERGE" "join condition" m.on (·.doc) ++ space
    ++ if m.clauses.isEmpty then missing "MERGE" "WHEN clause" else MergeWhen.docAll m.clauses

end SqlTree
