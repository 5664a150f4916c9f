import SqlTree.Column

/-! What stands between the parentheses of a table definition. -/
namespace SqlTree
open Doc

inductive PeriodName where
  | systemTime
  | application (name : Ident)
  deriving DecidableEq

def PeriodName.doc : PeriodName → Doc
  | .systemTime => text "SYSTEM_TIME"
  | .application name => ident name

/-- The columns that hold the begin and the end of the time in which a row is valid. -/
structure Period where
  name : PeriodName
  start : Ident
  stop : Ident
  deriving DecidableEq

def Period.doc (p : Period) : Doc :=
  text "PERIOD FOR" ++ space ++ p.name.doc ++ space
    ++ paren (ident p.start ++ comma ++ ident p.stop)

inductive LikeProperty where
  | comments | compression | constraints | defaults | generated
  | identity | indexes | statistics | storage | all
  deriving DecidableEq

instance : Spelled LikeProperty where
  keyword
    | .comments => "COMMENTS"
    | .compression => "COMPRESSION"
    | .constraints => "CONSTRAINTS"
    | .defaults => "DEFAULTS"
    | .generated => "GENERATED"
    | .identity => "IDENTITY"
    | .indexes => "INDEXES"
    | .statistics => "STATISTICS"
    | .storage => "STORAGE"
    | .all => "ALL"

structure LikeOption where
  including : Bool
  property : LikeProperty
  deriving DecidableEq

def LikeOption.doc (o : LikeOption) : Doc :=
  text (if o.including then "INCLUDING" else "EXCLUDING") ++ space ++ keyword o.property

/-- The columns of another table. -/
structure Like where
  table : TableName
  options : List LikeOption := []
  deriving DecidableEq

def Like.doc (l : Like) : Doc :=
  text "LIKE" ++ space ++ l.table.doc ++ trailing (l.options.map (·.doc))

inductive TableElement where
  | column (c : ColumnDef)
  | constraint (c : TableConstraint)
  | period (p : Period)
  | like (l : Like)

def TableElement.doc : TableElement → Doc
  | .column c => c.doc
  | .constraint c => c.doc
  | .period p => p.doc
  | .like l => l.doc

inductive ReferenceGeneration where
  | systemGenerated | userGenerated | derived
  deriving DecidableEq

instance : Spelled ReferenceGeneration where
  keyword
    | .systemGenerated => "SYSTEM GENERATED"
    | .userGenerated => "USER GENERATED"
    | .derived => "DERIVED"

/-- The column of a typed table that refers to the row itself. -/
structure SelfReference where
  name : Ident
  generation : Option ReferenceGeneration := none
  deriving DecidableEq

def SelfReference.doc (s : SelfReference) : Doc :=
  text "REF IS" ++ space ++ ident s.name ++ after s.generation keyword

inductive TypedElement where
  | column (c : ColumnOptions)
  | constraint (c : TableConstraint)
  | selfReference (s : SelfReference)

def TypedElement.doc : TypedElement → Doc
  | .column c => c.doc
  | .constraint c => c.doc
  | .selfReference s => s.doc

end SqlTree
