import SqlTree.Expr

/-! Parts of table references: aliases, samples and the ways to join. -/
namespace SqlTree
open Doc

structure Alias where
  name : Ident
  columns : List Ident := []
  deriving DecidableEq

def Alias.doc (a : Alias) : Doc :=
  text "AS" ++ space ++ ident a.name ++ afterParens (a.columns.map ident)

inductive SampleMethod where
  | bernoulli | system
  deriving DecidableEq

instance : Spelled SampleMethod where
  keyword
    | .bernoulli => "BERNOULLI"
    | .system => "SYSTEM"

/-- A random part of the rows of a table. -/
structure TableSample where
  method : SampleMethod
  percent : Expr
  seed : Option Expr := none

def TableSample.doc (s : TableSample) : Doc :=
  text "TABLESAMPLE" ++ space ++ keyword s.method ++ space ++ paren s.percent.doc
    ++ clause "REPEATABLE" s.seed (paren ·.doc)

/-- A table that is called by its name. -/
structure NamedTable where
  /-- Leaves out the rows of tables that inherit from this one. -/
  only : Bool := false
  name : TableName
  «alias» : Option Alias := none
  sample : Option TableSample := none

def NamedTable.doc (t : NamedTable) : Doc :=
  (if t.only then text "ONLY" ++ space else []) ++ t.name.doc
    ++ after t.alias (·.doc) ++ after t.sample (·.doc)

inductive JoinKind where
  | inner | left | right | full
  deriving DecidableEq

/-- Inner joins have no keyword of their own. -/
def JoinKind.keyword? : JoinKind → Option String
  | .inner => none
  | .left => some "LEFT"
  | .right => some "RIGHT"
  | .full => some "FULL"

def JoinKind.joinDoc (k : JoinKind) : Doc :=
  optional k.keyword? (text · ++ space) ++ text "JOIN"

/-- Which rows of the two sides go together. -/
inductive JoinSpec where
  | on (condition : Expr)
  | using (columns : List Ident)

def JoinSpec.doc : JoinSpec → Doc
  | .on condition => text "ON" ++ space ++ condition.doc
  | .using columns =>
    text "USING" ++ space ++ paren (required "USING" "column" (columns.map ident))

end SqlTree
