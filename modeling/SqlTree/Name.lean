import SqlTree.Doc

/-! Names of schemas, tables and columns. Each part is an identifier of its own. -/
namespace SqlTree
open Doc

structure SchemaName where
  catalog : Option Ident := none
  schema : Ident
  deriving DecidableEq

/-- A name that may be qualified by a schema. -/
structure QualifiedName where
  schema : Option SchemaName := none
  name : Ident
  deriving DecidableEq

/-- A table declared in a module or in the running session. -/
structure LocalName where
  isModule : Bool := false
  name : Ident
  deriving DecidableEq

inductive TableName where
  | locally (name : LocalName)
  | qualified (name : QualifiedName)
  deriving DecidableEq

structure ColumnRef where
  table : Option TableName := none
  name : Ident
  deriving DecidableEq

def dot : Doc := text "."

def SchemaName.doc (s : SchemaName) : Doc :=
  optional s.catalog (ident · ++ dot) ++ ident s.schema

def QualifiedName.doc (n : QualifiedName) : Doc :=
  optional n.schema (·.doc ++ dot) ++ ident n.name

def LocalName.doc (n : LocalName) : Doc :=
  (if n.isModule then text "MODULE" ++ dot else []) ++ ident n.name

namespace TableName

def doc : TableName → Doc
  | locally name => name.doc
  | qualified name => name.doc

def local? : TableName → Option LocalName
  | locally name => some name
  | qualified _ => none

def qualified? : TableName → Option QualifiedName
  | locally _ => none
  | qualified name => some name

def column (t : TableName) (name : Ident) : ColumnRef :=
  { table := some t, name }

end TableName

def ColumnRef.doc (c : ColumnRef) : Doc :=
  optional c.table (·.doc ++ dot) ++ ident c.name

end SqlTree
