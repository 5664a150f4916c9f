import SqlTree.Proofs.Defect
import SqlTree.Statement.CreateTable

/-! The defects of table definitions. Elements are visited in order, and inside a column its type,
its value and its constraints. -/
namespace SqlTree

mutual

/-- A row without fields is no type, however deep it is nested. -/
def DataType.defect? : DataType → Option RenderError
  | .array element _ => element.defect?
  | .multiset element => element.defect?
  | .row fields => (absent? "ROW type" "field" fields).or (RowField.defectAll? fields)
  | _ => none

def RowField.defect? : RowField → Option RenderError
  | { type, .. } => type.defect?

def RowField.defectAll? : List RowField → Option RenderError
  | [] => none
  | f :: fs => f.defect?.or (RowField.defectAll? fs)

end

def DefaultClause.defect? (d : DefaultClause) : Option RenderError :=
  match d.option with
  | .value v => v.defect?
  | _ => none

def ColumnValue.defect? : ColumnValue → Option RenderError
  | .default clause => clause.defect?
  | .generated e => e.defect?
  | _ => none

def ColumnRule.defect? : ColumnRule → Option RenderError
  | .check condition => condition.defect?
  | _ => none

def TableRule.defect? : TableRule → Option RenderError
  | .unique _ columns => absent? "table constraint" "column" columns
  | .foreignKey columns _ => absent? "foreign key" "column" columns
  | .check condition => condition.defect?

def ColumnDef.defect? (c : ColumnDef) : Option RenderError :=
  (c.type.bind (·.defect?))
    |>.or (c.value.bind (·.defect?))
    |>.or (c.constraints.findSome? (·.rule.defect?))

/-- Options that say nothing are not looked into. -/
def ColumnOptions.defect? (c : ColumnOptions) : Option RenderError :=
  match c.scope, c.default, c.constraints with
  | none, none, [] => some (.invalid "column options" (.noColumnOptions c.name))
  | _, default, constraints =>
    (default.bind (·.defect?)).or (constraints.findSome? (·.rule.defect?))

def TableElement.defect? : TableElement → Option RenderError
  | .column c => c.defect?
  | .constraint c => c.rule.defect?
  | .period _ => none
  | .like _ => none

def TypedElement.defect? : TypedElement → Option RenderError
  | .column c => c.defect?
  | .constraint c => c.rule.defect?
  | .selfReference _ => none

def TableContent.defect? : TableContent → Option RenderError
  | .elements items => items.findSome? (·.defect?)
  | .typed t => t.elements.findSome? (·.defect?)

def CreateTable.defect? (t : CreateTable) : Option RenderError :=
  t.content.defect?

end SqlTree
