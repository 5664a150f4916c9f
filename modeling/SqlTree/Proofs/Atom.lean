import SqlTree.Construct

/-! What the caller puts into a tree, read off the tree itself and in the order in which it is
written: names, literals, and the texts that are taken as they are. -/
namespace SqlTree

inductive Atom where
  | name (i : Ident)
  | text (s : String)
  | bytes (bs : List UInt8)
  /-- Raw text, an operator or the name of a function. -/
  | verbatim (s : String)
  deriving DecidableEq

def SchemaName.atoms (s : SchemaName) : List Atom :=
  s.catalog.elim [] (fun c => [.name c]) ++ [.name s.schema]

def QualifiedName.atoms (n : QualifiedName) : List Atom :=
  n.schema.elim [] (·.atoms) ++ [.name n.name]

def TableName.atoms : TableName → List Atom
  | .locally n => [.name n.name]
  | .qualified n => n.atoms

def ColumnRef.atoms (c : ColumnRef) : List Atom :=
  c.table.elim [] (·.atoms) ++ [.name c.name]

namespace Value

mutual

def atoms : Value → List Atom
  | .text s => [.text s]
  | .blob bytes => [.bytes bytes]
  | .row values => atomsAll values
  | _ => []

def atomsAll : List Value → List Atom
  | [] => []
  | v :: vs => atoms v ++ atomsAll vs

end

end Value

namespace Expr

mutual

def atoms : Expr → List Atom
  | .raw s => [.verbatim s]
  | .column c => c.atoms
  | .value v => v.atoms
  | .call function arguments => [.verbatim function] ++ atomsAll arguments
  | .binary left operator right => left.atoms ++ [.verbatim operator] ++ right.atoms
  | .not operand => operand.atoms
  | .isNull operand _ => operand.atoms
  | .inList operand values => operand.atoms ++ atomsAll values
  | .nested inner => inner.atoms
  | .over operand window => operand.atoms ++ [.name window]

def atomsAll : List Expr → List Atom
  | [] => []
  | e :: es => atoms e ++ atomsAll es

end

end Expr

def Collation.atoms (c : Collation) : List Atom := c.name.atoms

def CharacterType.atoms (t : CharacterType) : List Atom :=
  t.charset.elim [] (·.atoms) ++ t.collation.elim [] (·.atoms)

mutual

def DataType.atoms : DataType → List Atom
  | .character t => t.atoms
  | .array element _ => element.atoms
  | .multiset element => element.atoms
  | .row fields => RowField.atomsAll fields
  | .named name => name.atoms
  | _ => []

def RowField.atoms : RowField → List Atom
  | { name, type } => [.name name] ++ type.atoms

def RowField.atomsAll : List RowField → List Atom
  | [] => []
  | f :: fs => f.atoms ++ RowField.atomsAll fs

end

def DefaultOption.atoms : DefaultOption → List Atom
  | .value v => v.atoms
  | .raw s => [.verbatim s]
  | _ => []

def DefaultClause.atoms (d : DefaultClause) : List Atom := d.option.atoms

def ColumnValue.atoms : ColumnValue → List Atom
  | .default clause => clause.atoms
  | .generated e => e.atoms
  | _ => []

def References.atoms (r : References) : List Atom :=
  r.table.atoms ++ r.columns.map .name

def ColumnRule.atoms : ColumnRule → List Atom
  | .references target => target.atoms
  | .check condition => condition.atoms
  | _ => []

def TableRule.atoms : TableRule → List Atom
  | .unique _ columns => columns.map .name
  | .foreignKey columns target => columns.map .name ++ target.atoms
  | .check condition => condition.atoms

def Constraint.atoms {Rule : Type} (rule : Rule → List Atom) (c : Constraint Rule) : List Atom :=
  c.name.elim [] (·.atoms) ++ rule c.rule

def ColumnConstraint.atoms : ColumnConstraint → List Atom := Constraint.atoms ColumnRule.atoms
def TableConstraint.atoms : TableConstraint → List Atom := Constraint.atoms TableRule.atoms

def ColumnDef.atoms (c : ColumnDef) : List Atom :=
  [.name c.name] ++ c.type.elim [] (·.atoms) ++ c.value.elim [] (·.atoms)
    ++ c.constraints.flatMap (·.atoms) ++ c.collation.elim [] (·.atoms)

def ColumnOptions.atoms (c : ColumnOptions) : List Atom :=
  [.name c.name] ++ c.scope.elim [] (·.atoms) ++ c.default.elim [] (·.atoms)
    ++ c.constraints.flatMap (·.atoms)

def PeriodName.atoms : PeriodName → List Atom
  | .systemTime => []
  | .application name => [.name name]

def Period.atoms (p : Period) : List Atom :=
  p.name.atoms ++ [.name p.start, .name p.stop]

def TableElement.atoms : TableElement → List Atom
  | .column c => c.atoms
  | .constraint c => c.atoms
  | .period p => p.atoms
  | .like l => l.table.atoms

def TypedElement.atoms : TypedElement → List Atom
  | .column c => c.atoms
  | .constraint c => c.atoms
  | .selfReference s => [.name s.name]

def TypedTable.atoms (t : TypedTable) : List Atom :=
  t.type.atoms ++ t.elements.flatMap (·.atoms)

def TableContent.atoms : TableContent → List Atom
  | .elements items => items.flatMap (·.atoms)
  | .typed t => t.atoms

def CreateTable.atoms (t : CreateTable) : List Atom :=
  t.name.atoms ++ t.content.atoms

def Alias.atoms (a : Alias) : List Atom :=
  [.name a.name] ++ a.columns.map .name

def TableSample.atoms (s : TableSample) : List Atom :=
  s.percent.atoms ++ s.seed.elim [] (·.atoms)

def NamedTable.atoms (t : NamedTable) : List Atom :=
  t.name.atoms ++ t.alias.elim [] (·.atoms) ++ t.sample.elim [] (·.atoms)

def JoinSpec.atoms : JoinSpec → List Atom
  | .on condition => condition.atoms
  | .using columns => columns.map .name

def SelectItem.atoms : SelectItem → List Atom
  | .all => []
  | .allOf table => table.atoms
  | .expr e label => e.atoms ++ label.elim [] (fun i => [.name i])

def SortKey.atoms (k : SortKey) : List Atom := k.expr.atoms

namespace GroupingElement

mutual

def atoms : GroupingElement → List Atom
  | .columns cs => cs.flatMap (·.atoms)
  | .rollup cs => cs.flatMap (·.atoms)
  | .cube cs => cs.flatMap (·.atoms)
  | .sets elements => atomsAll elements
  | .empty => []

def atomsAll : List GroupingElement → List Atom
  | [] => []
  | e :: es => atoms e ++ atomsAll es

end

end GroupingElement

def GroupBy.atoms (g : GroupBy) : List Atom := GroupingElement.atomsAll g.elements

def FrameBound.atoms : FrameBound → List Atom
  | .preceding distance => distance.atoms
  | .following distance => distance.atoms
  | _ => []

def WindowFrame.atoms (f : WindowFrame) : List Atom :=
  f.start.atoms ++ f.stop.elim [] (·.atoms)

def WindowSpec.atoms (w : WindowSpec) : List Atom :=
  w.existing.elim [] (fun i => [.name i]) ++ w.partitionBy.flatMap (·.atoms)
    ++ w.orderBy.flatMap (·.atoms) ++ w.frame.elim [] (·.atoms)

def WindowDef.atoms (w : WindowDef) : List Atom :=
  [.name w.name] ++ w.spec.atoms

def Lock.atoms (l : Lock) : List Atom := l.tables.flatMap (·.atoms)

mutual

def TableRef.atoms : TableRef → List Atom
  | .table t => t.atoms
  | .derived query label => query.atoms ++ label.elim [] (·.atoms)
  | .nested inner label => inner.atoms ++ label.elim [] (·.atoms)
  | .cross left right => left.atoms ++ right.atoms
  | .qualified left _ right spec => left.atoms ++ right.atoms ++ spec.atoms
  | .natural left _ right => left.atoms ++ right.atoms

def TableRef.atomsAll : List TableRef → List Atom
  | [] => []
  | t :: ts => t.atoms ++ TableRef.atomsAll ts

def Query.atoms : Query → List Atom
  | { items, tables, condition, groupBy, having, windows, orderBy, lock, .. } =>
    items.flatMap (·.atoms) ++ TableRef.atomsAll tables
      ++ condition.elim [] (·.atoms) ++ groupBy.elim [] (·.atoms) ++ having.elim [] (·.atoms)
      ++ windows.flatMap (·.atoms) ++ orderBy.flatMap (·.atoms) ++ lock.elim [] (·.atoms)

end

def InsertSource.atoms : InsertSource → List Atom
  | .defaultValues => []
  | .values rows => rows.flatMap Expr.atomsAll
  | .query q => q.atoms

def Insert.atoms (i : Insert) : List Atom :=
  i.table.atoms ++ i.columns.map .name ++ i.source.atoms

def Assignment.atoms : Assignment → List Atom
  | .column name value => [.name name] ++ value.atoms
  | .row columns value => columns.map .name ++ value.atoms
  | .raw s => [.verbatim s]

def RowFilter.atoms : RowFilter → List Atom
  | .search condition => condition.atoms
  | .currentOf cursor => [.name cursor]

def Update.atoms (u : Update) : List Atom :=
  u.table.atoms ++ u.alias.elim [] (fun i => [.name i]) ++ u.assignments.flatMap (·.atoms)
    ++ u.filter.elim [] (·.atoms)

def Delete.atoms (d : Delete) : List Atom :=
  d.table.atoms ++ d.alias.elim [] (fun i => [.name i]) ++ d.filter.elim [] (·.atoms)

def Truncate.atoms (t : Truncate) : List Atom := t.tables.flatMap (·.atoms)

def MatchedAction.atoms : MatchedAction → List Atom
  | .update assignments => assignments.flatMap (·.atoms)
  | _ => []

def WhenMatched.atoms (w : WhenMatched) : List Atom :=
  w.condition.elim [] (·.atoms) ++ w.action.atoms

def MergeInsert.atoms (i : MergeInsert) : List Atom :=
  i.columns.map .name ++ i.values.elim [] Expr.atomsAll

def NotMatchedAction.atoms : NotMatchedAction → List Atom
  | .insert i => i.atoms
  | .doNothing => []

def WhenNotMatched.atoms (w : WhenNotMatched) : List Atom :=
  w.condition.elim [] (·.atoms) ++ w.action.atoms

def MergeWhen.atoms : MergeWhen → List Atom
  | .matched w => w.atoms
  | .notMatched w => w.atoms

def Merge.atoms (m : Merge) : List Atom :=
  m.target.atoms ++ m.alias.elim [] (fun i => [.name i]) ++ m.source.elim [] (·.atoms)
    ++ m.on.elim [] (·.atoms) ++ m.clauses.flatMap (·.atoms)

def Construct.atoms : Construct → List Atom
  | .schemaName n => n.atoms
  | .qualifiedName n => n.atoms
  | .localName n => [.name n.name]
  | .tableName n => n.atoms
  | .columnRef c => c.atoms
  | .value v => v.atoms
  | .expr e => e.atoms
  | .collation c => c.atoms
  | .characterType t => t.atoms
  | .rowField f => f.atoms
  | .dataType t => t.atoms
  | .defaultOption o => o.atoms
  | .defaultClause d => d.atoms
  | .columnValue v => v.atoms
  | .columnDef c => c.atoms
  | .columnOptions c => c.atoms
  | .references r => r.atoms
  | .columnConstraint c => c.atoms
  | .tableConstraint c => c.atoms
  | .period p => p.atoms
  | .like l => l.table.atoms
  | .tableElement e => e.atoms
  | .selfReference s => [.name s.name]
  | .typedElement e => e.atoms
  | .typedTable t => t.atoms
  | .tableContent c => c.atoms
  | .createTable t => t.atoms
  | .«alias» a => a.atoms
  | .tableSample s => s.atoms
  | .joinSpec s => s.atoms
  | .tableRef t => t.atoms
  | .selectItem i => i.atoms
  | .sortKey k => k.atoms
  | .groupingElement e => e.atoms
  | .groupBy g => g.atoms
  | .frameBound b => b.atoms
  | .windowFrame f => f.atoms
  | .windowSpec w => w.atoms
  | .windowDef w => w.atoms
  | .lock l => l.atoms
  | .query q => q.atoms
  | .insertSource s => s.atoms
  | .insert i => i.atoms
  | .assignment a => a.atoms
  | .rowFilter f => f.atoms
  | .update u => u.atoms
  | .delete d => d.atoms
  | .truncate t => t.atoms
  | .matchedAction a => a.atoms
  | .whenMatched w => w.atoms
  | .mergeInsert i => i.atoms
  | .notMatchedAction a => a.atoms
  | .whenNotMatched w => w.atoms
  | .mergeWhen w => w.atoms
  | .mergeClauses ws => ws.flatMap (·.atoms)
  | .merge m => m.atoms
  | _ => []

end SqlTree
