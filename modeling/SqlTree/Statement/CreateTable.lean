import SqlTree.Table

/-! Statements that create tables. -/
namespace SqlTree
open Doc

inductive TableScope where
  | temporary | globalTemporary | localTemporary
  deriving DecidableEq

instance : Spelled TableScope where
  keyword
    | .temporary => "TEMPORARY"
    | .globalTemporary => "GLOBAL TEMPORARY"
    | .localTemporary => "LOCAL TEMPORARY"

/-- What becomes of the rows of a temporary table at the end of a transaction. -/
inductive CommitAction where
  | preserveRows | deleteRows | drop
  deriving DecidableEq

instance : Spelled CommitAction where
  keyword
    | .preserveRows => "PRESERVE ROWS"
    | .deleteRows => "DELETE ROWS"
    | .drop => "DROP"

inductive SystemVersioning where
  | standard
  /-- The spelling that sets a property of the table. -/
  | switchedOn
  deriving DecidableEq

instance : Spelled SystemVersioning where
  keyword
    | .standard => "SYSTEM VERSIONING"
    | .switchedOn => "(SYSTEM_VERSIONING = ON)"

structure CreateTable where
  scope : Option TableScope := none
  name : TableName
  content : TableContent := .elements []
  versioning : Option SystemVersioning := none
  onCommit : Option CommitAction := none

namespace CreateTable

def doc (t : CreateTable) : Doc :=
  text "CREATE" ++ after t.scope keyword ++ space ++ text "TABLE" ++ space ++ t.name.doc
    ++ (if t.content.isEmpty then [] else space ++ t.content.doc)
    ++ clause "WITH" t.versioning keyword
    ++ clause "ON COMMIT" t.onCommit keyword

inductive Change where
  | scope (s : TableScope)
  | onCommit (a : CommitAction)
  | versioning (v : SystemVersioning)
  | of (type : QualifiedName) (elements : List TypedElement)
  | element (e : TableElement)

/-- Elements add up, everything else is replaced. -/
def change (t : CreateTable) : Change → CreateTable
  | .scope s => { t with scope := some s }
  | .onCommit a => { t with onCommit := some a }
  | .versioning v => { t with versioning := some v }
  | .of type elements => { t with content := .typed { type, elements } }
  | .element e => { t with content := t.content.push e }

def build (name : TableName) (changes : List Change) : CreateTable :=
  changes.foldl change { name }

/-- A temporary table, whatever scope the changes ask for. -/
def temporary (name : TableName) (changes : List Change) : CreateTable :=
  { build name changes with scope := some .temporary }

end CreateTable
end SqlTree
