import SqlTree.Query

/-! Building table references: joins, nesting and the parts of named tables. -/
namespace SqlTree.TableRef

def ofName (name : TableName) : TableRef :=
  .table { name }

/-- An alias belongs to the whole of a reference, so a join is nested to take one. -/
def withAlias (a : Alias) : TableRef → TableRef
  | .table t => .table { t with «alias» := some a }
  | .derived query _ => .derived query (some a)
  | .nested inner _ => .nested inner (some a)
  | join => .nested join (some a)

/-- Only named tables take this mark. -/
def withOnly : TableRef → TableRef
  | .table t => .table { t with only := true }
  | other => other

/-- Only named tables are sampled. -/
def withSample (s : TableSample) : TableRef → TableRef
  | .table t => .table { t with sample := some s }
  | other => other

def nest (t : TableRef) : TableRef :=
  .nested t none

inductive Change where
  | «alias» (a : Alias)
  | only
  | sample (s : TableSample)

def change (t : TableRef) : Change → TableRef
  | .«alias» a => t.withAlias a
  | .only => t.withOnly
  | .sample s => t.withSample s

end SqlTree.TableRef
