import SqlTree.Value

/-! Default values of columns. -/
namespace SqlTree
open Doc

inductive SessionValue where
  | user | currentUser | currentRole | sessionUser | systemUser
  | currentCatalog | currentSchema | currentPath
  deriving DecidableEq

instance : Spelled SessionValue where
  keyword
    | .user => "USER"
    | .currentUser => "CURRENT_USER"
    | .currentRole => "CURRENT_ROLE"
    | .sessionUser => "SESSION_USER"
    | .systemUser => "SYSTEM_USER"
    | .currentCatalog => "CURRENT_CATALOG"
    | .currentSchema => "CURRENT_SCHEMA"
    | .currentPath => "CURRENT_PATH"

inductive ClockKind where
  | currentDate | currentTime | localTime | currentTimestamp | localTimestamp
  deriving DecidableEq

instance : Spelled ClockKind where
  keyword
    | .currentDate => "CURRENT_DATE"
    | .currentTime => "CURRENT_TIME"
    | .localTime => "LOCALTIME"
    | .currentTimestamp => "CURRENT_TIMESTAMP"
    | .localTimestamp => "LOCALTIMESTAMP"

/-- The date or time at which a statement runs. -/
structure ClockValue where
  kind : ClockKind
  precision : Option UInt64 := none
  deriving DecidableEq

/-- A date has no precision to write. -/
def ClockValue.doc (v : ClockValue) : Doc :=
  keyword v.kind ++ if v.kind = .currentDate then [] else optional v.precision (paren <| uint ·)

inductive DefaultOption where
  | value (v : Value)
  | raw (text : String)
  | session (v : SessionValue)
  | clock (v : ClockValue)
  | emptyArray
  | emptyMultiset

def DefaultOption.doc : DefaultOption → Doc
  | .value v => v.doc
  | .raw s => verbatim s
  | .session v => keyword v
  | .clock v => v.doc
  | .emptyArray => text "ARRAY" ++ bracket []
  | .emptyMultiset => text "MULTISET" ++ bracket []

structure DefaultClause where
  option : DefaultOption

def DefaultClause.doc (d : DefaultClause) : Doc :=
  text "DEFAULT" ++ space ++ d.option.doc

end SqlTree
