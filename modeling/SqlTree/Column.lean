import SqlTree.Column.Default
import SqlTree.Column.Identity
import SqlTree.Constraint
import SqlTree.DataType

/-! Columns of tables, defined in full or as options on the columns of a type. -/
namespace SqlTree
open Doc

/-- Where a column takes its values from when a statement gives none. -/
inductive ColumnValue where
  | default (clause : DefaultClause)
  | identity (i : Identity)
  | generated (e : Expr)
  | rowStart
  | rowEnd

namespace ColumnValue

def doc : ColumnValue → Doc
  | default clause => clause.doc
  | identity i => i.doc
  | generated e => text "GENERATED ALWAYS AS" ++ space ++ paren e.doc
  | rowStart => text "GENERATED ALWAYS AS ROW START"
  | rowEnd => text "GENERATED ALWAYS AS ROW END"

def default? : ColumnValue → Option DefaultClause
  | default clause => some clause
  | _ => none

end ColumnValue

structure ColumnDef where
  name : Ident
  type : Option DataType := none
  value : Option ColumnValue := none
  constraints : List ColumnConstraint := []
  collation : Option Collation := none

namespace ColumnDef

def doc (c : ColumnDef) : Doc :=
  ident c.name
    ++ after c.type (·.doc)
    ++ after c.value (·.doc)
    ++ trailing (c.constraints.map (·.doc))
    ++ after c.collation (·.doc)

inductive Change where
  | type (t : DataType)
  | value (v : ColumnValue)
  | constraint (c : ColumnConstraint)
  | collation (c : Collation)

namespace Change

def domain (name : QualifiedName) : Change := type (.named name)
def default (clause : DefaultClause) : Change := value (.default clause)
def identity (i : Identity) : Change := value (.identity i)
def generated (e : Expr) : Change := value (.generated e)
def rowStart : Change := value .rowStart
def rowEnd : Change := value .rowEnd
def rule (r : ColumnRule) : Change := constraint { rule := r }

end Change

/-- Constraints add up, everything else is replaced. -/
def change (c : ColumnDef) : Change → ColumnDef
  | .type t => { c with type := some t }
  | .value v => { c with value := some v }
  | .constraint k => { c with constraints := c.constraints ++ [k] }
  | .collation k => { c with collation := some k }

def build (name : Ident) (changes : List Change) : ColumnDef :=
  changes.foldl change { name }

end ColumnDef

/-- What a typed table adds to a column of its type. -/
structure ColumnOptions where
  name : Ident
  scope : Option TableName := none
  default : Option DefaultClause := none
  constraints : List ColumnConstraint := []

namespace ColumnOptions

def isEmpty (c : ColumnOptions) : Bool :=
  c.scope.isNone && c.default.isNone && c.constraints.isEmpty

def doc (c : ColumnOptions) : Doc :=
  if c.isEmpty then invalid "column options" (.noColumnOptions c.name)
  else
    ident c.name ++ space ++ text "WITH OPTIONS"
      ++ clause "SCOPE" c.scope (·.doc)
      ++ after c.default (·.doc)
      ++ trailing (c.constraints.map (·.doc))

def addConstraint (c : ColumnOptions) (k : ColumnConstraint) : ColumnOptions :=
  { c with constraints := c.constraints ++ [k] }

end ColumnOptions

/-- A type fixes the types and collations of its columns, and options know no other value than
a default. -/
def ColumnDef.withOptions (c : ColumnDef) : ColumnOptions :=
  { name := c.name, default := c.value.bind (·.default?), constraints := c.constraints }

end SqlTree
