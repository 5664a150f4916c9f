import SqlTree.Expr

/-! Constraints of columns and tables. -/
namespace SqlTree
open Doc

/-- When a deferrable constraint is checked at first. -/
inductive CheckTime where
  | initiallyDeferred | initiallyImmediate
  deriving DecidableEq

instance : Spelled CheckTime where
  keyword
    | .initiallyDeferred => "INITIALLY DEFERRED"
    | .initiallyImmediate => "INITIALLY IMMEDIATE"

structure Characteristics where
  checkTime : Option CheckTime := none
  deferrable : Option Bool := none
  enforced : Option Bool := none
  deriving DecidableEq

namespace Characteristics

def isEmpty (c : Characteristics) : Bool :=
  c.checkTime.isNone && c.deferrable.isNone && c.enforced.isNone

def keywords (c : Characteristics) : List String :=
  (c.checkTime.map Spelled.keyword).toList
    ++ (c.deferrable.map fun b => if b then "DEFERRABLE" else "NOT DEFERRABLE").toList
    ++ (c.enforced.map fun b => if b then "ENFORCED" else "NOT ENFORCED").toList

def doc (c : Characteristics) : Doc :=
  spaced (c.keywords.map text)

end Characteristics

inductive MatchType where
  | simple | full | «partial»
  deriving DecidableEq

instance : Spelled MatchType where
  keyword
    | .simple => "SIMPLE"
    | .full => "FULL"
    | .partial => "PARTIAL"

inductive ReferentialAction where
  | noAction | cascade | setNull | setDefault | restrict
  deriving DecidableEq

instance : Spelled ReferentialAction where
  keyword
    | .noAction => "NO ACTION"
    | .cascade => "CASCADE"
    | .setNull => "SET NULL"
    | .setDefault => "SET DEFAULT"
    | .restrict => "RESTRICT"

/-- The rows of another table that a row points to. -/
structure References where
  table : TableName
  columns : List Ident := []
  matchType : Option MatchType := none
  onUpdate : Option ReferentialAction := none
  onDelete : Option ReferentialAction := none
  deriving DecidableEq

def References.doc (r : References) : Doc :=
  text "REFERENCES" ++ space ++ r.table.doc
    ++ afterParens (r.columns.map ident)
    ++ clause "MATCH" r.matchType keyword
    ++ clause "ON UPDATE" r.onUpdate keyword
    ++ clause "ON DELETE" r.onDelete keyword

inductive UniqueKind where
  | unique | primaryKey
  deriving DecidableEq

instance : Spelled UniqueKind where
  keyword
    | .unique => "UNIQUE"
    | .primaryKey => "PRIMARY KEY"

def checkDoc (condition : Expr) : Doc :=
  text "CHECK" ++ space ++ paren condition.doc

/-- What a constraint asks of one column. -/
inductive ColumnRule where
  | notNull
  | unique (kind : UniqueKind)
  | references (target : References)
  | check (condition : Expr)

def ColumnRule.doc : ColumnRule → Doc
  | .notNull => text "NOT NULL"
  | .unique kind => keyword kind
  | .references target => target.doc
  | .check condition => checkDoc condition

/-- What a constraint asks of a table. -/
inductive TableRule where
  | unique (kind : UniqueKind) (columns : List Ident)
  | foreignKey (columns : List Ident) (target : References)
  | check (condition : Expr)

def TableRule.doc : TableRule → Doc
  | .unique kind columns =>
    keyword kind ++ space
      ++ paren (required "table constraint" "column" (columns.map ident))
  | .foreignKey columns target =>
    text "FOREIGN KEY" ++ space ++ paren (required "foreign key" "column" (columns.map ident))
      ++ space ++ target.doc
  | .check condition => checkDoc condition

/-- A rule with an optional name and the times at which it is checked. -/
structure Constraint (Rule : Type) where
  name : Option QualifiedName := none
  rule : Rule
  characteristics : Option Characteristics := none

/-- Characteristics that say nothing leave no trace. -/
def Constraint.doc {Rule : Type} (rule : Rule → Doc) (c : Constraint Rule) : Doc :=
  optional c.name (fun n => text "CONSTRAINT" ++ space ++ n.doc ++ space)
    ++ rule c.rule
    ++ after (c.characteristics.filter (!·.isEmpty)) (·.doc)

abbrev ColumnConstraint := Constraint ColumnRule
abbrev TableConstraint := Constraint TableRule

def ColumnConstraint.doc : ColumnConstraint → Doc := Constraint.doc ColumnRule.doc
def TableConstraint.doc : TableConstraint → Doc := Constraint.doc TableRule.doc

end SqlTree
