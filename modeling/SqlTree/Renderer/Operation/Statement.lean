import SqlTree.Renderer.Operation.Table

/-! How queries and statements ask a renderer to be written. -/
namespace SqlTree
open Operation

/-! The parts of a query. -/

def Alias.operations (a : Alias) : List Operation :=
  [.keyword "AS", .space, .visit [.name a.name]] ++ afterParens a.columns .name

def TableSample.operations (s : TableSample) : List Operation :=
  [.keyword "TABLESAMPLE", .space, .accept (.spelled s.method), .space,
    .paren [.construct (.expr s.percent)]]
    ++ given s.seed fun e =>
      [.space, .keyword "REPEATABLE", .space, .paren [.construct (.expr e)]]

def JoinSpec.operations : JoinSpec → List Operation
  | .on condition => [.keyword "ON", .space, .visit [.construct (.expr condition)]]
  | .using columns =>
    [.keyword "USING", .space] ++ requireParen "USING" "column" (.items columns .name)

def JoinKind.operations (k : JoinKind) : List Operation :=
  given k.keyword? fun s => [.keyword s, .space]

/-- A join visits its right operand, and a qualified one its condition in the same group. -/
def TableRef.operations : TableRef → List Operation
  | .table t =>
    (if t.only then [.keyword "ONLY", .space] else [])
      ++ [.construct (.tableName t.name), .after (.part t.alias (.construct <| .alias ·)),
        .after (.part t.sample (.construct <| .tableSample ·))]
  | .derived query label =>
    [.paren [.construct (.query query)], .space,
      .require "derived table" "alias" (.part label (.construct <| .alias ·))]
  | .nested inner label =>
    [.paren [.construct (.tableRef inner)], .after (.part label (.construct <| .alias ·))]
  | .cross left right =>
    [.construct (.tableRef left), .space, .keyword "CROSS JOIN", .space,
      .construct (.tableRef right)]
  | .qualified left kind right spec =>
    [.construct (.tableRef left), .space] ++ kind.operations
      ++ [.keyword "JOIN", .space,
        .visit [.construct (.tableRef right), .leaf .space, .construct (.joinSpec spec)]]
  | .natural left kind right =>
    [.construct (.tableRef left), .space, .keyword "NATURAL", .space] ++ kind.operations
      ++ [.keyword "JOIN", .space, .visit [.construct (.tableRef right)]]

def SelectItem.operations : SelectItem → List Operation
  | .all => [.token '*']
  | .allOf table => [.construct (.tableName table), .token '.', .token '*']
  | .expr e label => [.construct (.expr e), .clause "AS" (.part label .name)]

def SortKey.operations (k : SortKey) : List Operation :=
  [.construct (.expr k.expr)]
    ++ given k.direction (fun d => [.space, .keyword (Spelled.keyword d)])
    ++ given k.nulls (fun n => [.space, .keyword (Spelled.keyword n)])

/-- A set of one column visits the list without any parentheses. -/
def GroupingElement.operations : GroupingElement → List Operation
  | .columns cs =>
    if cs.length = 1 then [.visit [.items cs (.construct <| .columnRef ·)]]
    else requireParen "grouping set" "column" (.items cs (.construct <| .columnRef ·))
  | .rollup cs =>
    [.keyword "ROLLUP", .space]
      ++ requireParen "ROLLUP" "column" (.items cs (.construct <| .columnRef ·))
  | .cube cs =>
    [.keyword "CUBE", .space]
      ++ requireParen "CUBE" "column" (.items cs (.construct <| .columnRef ·))
  | .sets elements =>
    [.keyword "GROUPING SETS", .space]
      ++ requireParen "GROUPING SETS" "grouping element"
        (.items elements (.construct <| .groupingElement ·))
  | .empty => [.token '(', .token ')']

def GroupBy.operations (g : GroupBy) : List Operation :=
  [.keyword "GROUP BY", .space] ++ given g.quantifier (fun q => [.accept (.spelled q), .space])
    ++ [.require "GROUP BY" "grouping element"
      (.items g.elements (.construct <| .groupingElement ·))]

def FrameBound.operations : FrameBound → List Operation
  | .unboundedPreceding => [.keyword "UNBOUNDED PRECEDING"]
  | .preceding distance => [.construct (.expr distance), .space, .keyword "PRECEDING"]
  | .currentRow => [.keyword "CURRENT ROW"]
  | .following distance => [.construct (.expr distance), .space, .keyword "FOLLOWING"]
  | .unboundedFollowing => [.keyword "UNBOUNDED FOLLOWING"]

def WindowFrame.operations (f : WindowFrame) : List Operation :=
  match f.problem? with
  | some problem => [.fail (.invalid "window frame" problem)]
  | none =>
    [.accept (.spelled f.units), .space]
      ++ (match f.stop with
        | some stop =>
          [.keyword "BETWEEN", .space, .construct (.frameBound f.start), .space, .keyword "AND",
            .space, .construct (.frameBound stop)]
        | none => [.construct (.frameBound f.start)])
      ++ given f.exclusion fun e => [.space, .accept (.spelled e)]

/-- The parts that are there, each of them a node. -/
def WindowSpec.nodes (w : WindowSpec) : List Node :=
  (w.existing.map .name).toList
    ++ phrase "PARTITION BY" (w.partitionBy.map (.construct <| .columnRef ·))
    ++ phrase "ORDER BY" (w.orderBy.map (.construct <| .sortKey ·))
    ++ (w.frame.map (.construct <| .windowFrame ·)).toList
where
  phrase (keyword : String) (items : List Node) : List Node :=
    if items.isEmpty then [] else [.sequence [.word keyword, .leaf .space, .list items]]

def WindowSpec.operations (w : WindowSpec) : List Operation :=
  between .space (w.nodes.map ([.accept ·]))

def WindowDef.operations (w : WindowDef) : List Operation :=
  [.name w.name, .space, .keyword "AS", .space, .token '(', .construct (.windowSpec w.spec),
    .token ')']

def Offset.operations (o : Offset) : List Operation :=
  [.keyword "OFFSET", .space, .primitive (.uint o.count)]
    ++ given o.suffix fun s => [.space, .keyword (Spelled.keyword s)]

def Fetch.operations (f : Fetch) : List Operation :=
  [.keyword "FETCH NEXT", .space, .primitive (.uint f.count)]
    ++ (if f.percent then [.space, .keyword "PERCENT"] else [])
    ++ [.space, .keyword (Spelled.keyword (RowsKeyword.ofCount f.count)), .space,
      .keyword (if f.withTies then "WITH TIES" else "ONLY")]

def LockWait.operations : LockWait → List Operation
  | .seconds n => [.space, .keyword "WAIT", .space, .primitive (.uint n)]
  | .noWait => [.space, .keyword "NOWAIT"]
  | .skipLocked => [.space, .keyword "SKIP LOCKED"]

def Lock.operations (l : Lock) : List Operation :=
  [.keyword "FOR", .space, .keyword (Spelled.keyword l.mode),
    .clause "OF" (.items l.tables (.construct <| .tableName ·))]
    ++ given l.wait (·.operations)

def Query.operations (q : Query) : List Operation :=
  [.keyword "SELECT", .after (.part q.quantifier .spelled), .space,
    .require "SELECT" "select list" (.items q.items (.construct <| .selectItem ·)),
    .clause "FROM" (.items q.tables (.construct <| .tableRef ·)),
    .clause "WHERE" (.part q.condition (.construct <| .expr ·)),
    .after (.part q.groupBy (.construct <| .groupBy ·)),
    .clause "HAVING" (.part q.having (.construct <| .expr ·)),
    .clause "WINDOW" (.items q.windows (.construct <| .windowDef ·)),
    .clause "ORDER BY" (.items q.orderBy (.construct <| .sortKey ·)),
    .clause "LIMIT" (.part q.limit (.leaf <| Doc.uint ·)),
    .after (.part q.offset (.construct <| .offset ·)),
    .after (.part q.fetch (.construct <| .fetch ·)),
    .after (.part q.lock (.construct <| .lock ·))]

/-! Statements that change rows. -/

/-- One row of values between parentheses. -/
def Operation.valuesRow (row : List Expr) : List Operation :=
  requireParen "VALUES" "value" (.items row (.construct <| .expr ·))

def InsertSource.operations : InsertSource → List Operation
  | .defaultValues => [.keyword "DEFAULT VALUES"]
  | .values rows =>
    [.keyword "VALUES"]
      ++ (match rows with
        | [] => [.fail (.missing "VALUES" "row")]
        | [row] => [.space] ++ valuesRow row
        | rows =>
          between (.primitive .separator) (rows.map fun row =>
            [.primitive .newline, .primitive .indent, .keyword "ROW"] ++ valuesRow row))
  | .query q => [.construct (.query q)]

def Operation.insertColumns (columns : List Ident) (overriding : Option Overriding) :
    List Operation :=
  (if columns.isEmpty then [] else
    [.token '(', .join (columns.map .name) (.leaf Doc.comma), .token ')', .space])
    ++ given overriding fun o => [.accept (.spelled o), .space]

def Insert.operations (i : Insert) : List Operation :=
  match i.problem? with
  | some problem => [.fail (.invalid "INSERT" problem)]
  | none =>
    [.keyword "INSERT INTO", .space, .construct (.tableName i.table), .space]
      ++ insertColumns i.columns i.overriding ++ [.construct (.insertSource i.source)]

def Assignment.operations : Assignment → List Operation
  | .column name value =>
    [.name name, .space, .token '=', .space, .construct (.expr value)]
  | .row columns value =>
    requireParen "assignment" "column" (.items columns .name)
      ++ [.space, .token '=', .space, .construct (.expr value)]
  | .raw s => [.primitive (.raw s)]

def RowFilter.operations : RowFilter → List Operation
  | .search condition => [.keyword "WHERE", .space, .construct (.expr condition)]
  | .currentOf cursor => [.keyword "WHERE", .space, .keyword "CURRENT OF", .space, .name cursor]

def Operation.named («alias» : Option Ident) : List Operation :=
  given «alias» fun i => [.space, .keyword "AS", .space, .name i]

def Operation.filtered (filter : Option RowFilter) : List Operation :=
  given filter fun f => [.space, .construct (.rowFilter f)]

def Update.operations (u : Update) : List Operation :=
  if u.assignments.isEmpty then [.fail (.missing "UPDATE" "assignment")] else
    [.keyword "UPDATE", .space, .construct (.tableName u.table)] ++ named u.alias
      ++ [.space, .keyword "SET", .space,
        .join (u.assignments.map (.construct <| .assignment ·)) (.leaf Doc.comma)]
      ++ filtered u.filter

def Delete.operations (d : Delete) : List Operation :=
  [.keyword "DELETE FROM", .space] ++ (if d.only then [.keyword "ONLY", .space] else [])
    ++ [.construct (.tableName d.table)] ++ named d.alias ++ filtered d.filter

def Truncate.operations (t : Truncate) : List Operation :=
  if t.tables.isEmpty then [.fail (.missing "TRUNCATE" "table")] else
    [.keyword "TRUNCATE TABLE", .space, .list (t.tables.map (.construct <| .tableName ·)),
      .after (.part t.identity .spelled), .after (.part t.behavior .spelled)]

/-! Merges. -/

def MatchedAction.operations : MatchedAction → List Operation
  | .update assignments =>
    [.keyword "UPDATE SET", .space,
      .require "UPDATE SET" "assignment" (.items assignments (.construct <| .assignment ·))]
  | .delete => [.keyword "DELETE"]
  | .doNothing => [.keyword "DO NOTHING"]

def Operation.whenHead (keyword : String) (condition : Option Expr) : List Operation :=
  [.keyword keyword, .space]
    ++ given condition (fun e => [.keyword "AND", .space, .construct (.expr e), .space])
    ++ [.keyword "THEN", .space]

def WhenMatched.operations (w : WhenMatched) : List Operation :=
  whenHead "WHEN MATCHED" w.condition ++ [.construct (.matchedAction w.action)]

def MergeInsert.operations (i : MergeInsert) : List Operation :=
  match i.problem?, i.values with
  | some problem, _ => [.fail (.invalid "INSERT" problem)]
  | none, none => [.keyword "INSERT DEFAULT VALUES"]
  | none, some row =>
    [.keyword "INSERT", .space] ++ insertColumns i.columns i.overriding
      ++ [.keyword "VALUES", .space] ++ valuesRow row

def NotMatchedAction.operations : NotMatchedAction → List Operation
  | .insert i => [.construct (.mergeInsert i)]
  | .doNothing => [.keyword "DO NOTHING"]

def WhenNotMatched.operations (w : WhenNotMatched) : List Operation :=
  whenHead "WHEN NOT MATCHED" w.condition ++ [.construct (.notMatchedAction w.action)]

def MergeWhen.operations : MergeWhen → List Operation
  | .matched w => [.construct (.whenMatched w)]
  | .notMatched w => [.construct (.whenNotMatched w)]

def MergeWhen.operationsAll (clauses : List MergeWhen) : List Operation :=
  between .space (clauses.map fun w => [.construct (.mergeWhen w)])

def Merge.operations (m : Merge) : List Operation :=
  [.keyword "MERGE INTO", .space, .construct (.tableName m.target)] ++ named m.alias
    ++ [.space, .keyword "USING", .space,
      .require "MERGE" "source" (.part m.source (.construct <| .tableRef ·)),
      .space, .keyword "ON", .space,
      .require "MERGE" "join condition" (.part m.on (.construct <| .expr ·)), .space,
      .require "MERGE" "WHEN clause" (.construct (.mergeClauses m.clauses))]

/-- What each construct asks of a renderer when it is written. -/
def Construct.operations : Construct → List Operation
  | .schemaName n => n.operations
  | .qualifiedName n => n.operations
  | .localName n => n.operations
  | .tableName n => n.operations
  | .columnRef c => c.operations
  | .value v => v.operations
  | .expr e => e.operations
  | .collation c => c.operations
  | .characterType t => t.operations
  | .binaryType t => t.operations
  | .numericType t => t.operations
  | .dateTimeType t => t.operations
  | .dateTimeField f => f.operations
  | .intervalType t => t.operations
  | .rowField f => f.operations
  | .dataType t => t.operations
  | .keyword k => [.keyword (Spelled.keyword k)]
  | .sequenceOption o => o.operations
  | .identity i => i.operations
  | .clockValue v => v.operations
  | .defaultOption o => o.operations
  | .defaultClause d => d.operations
  | .columnValue v => v.operations
  | .columnDef c => c.operations
  | .columnOptions c => c.operations
  | .characteristics c => c.operations
  | .references r => r.operations
  | .columnConstraint c => Constraint.operations ColumnRule.operations c
  | .tableConstraint c => Constraint.operations TableRule.operations c
  | .period p => p.operations
  | .likeOption o => o.operations
  | .like l => l.operations
  | .tableElement e => e.operations
  | .selfReference s => s.operations
  | .typedElement e => e.operations
  | .typedTable t => t.operations
  | .tableContent c => c.operations
  | .createTable t => t.operations
  | .«alias» a => a.operations
  | .tableSample s => s.operations
  | .joinSpec s => s.operations
  | .tableRef t => t.operations
  | .selectItem i => i.operations
  | .sortKey k => k.operations
  | .groupingElement e => e.operations
  | .groupBy g => g.operations
  | .frameBound b => b.operations
  | .windowFrame f => f.operations
  | .windowSpec w => w.operations
  | .windowDef w => w.operations
  | .offset o => o.operations
  | .fetch f => f.operations
  | .lock l => l.operations
  | .query q => q.operations
  | .insertSource s => s.operations
  | .insert i => i.operations
  | .assignment a => a.operations
  | .rowFilter f => f.operations
  | .update u => u.operations
  | .delete d => d.operations
  | .truncate t => t.operations
  | .matchedAction a => a.operations
  | .whenMatched w => w.operations
  | .mergeInsert i => i.operations
  | .notMatchedAction a => a.operations
  | .whenNotMatched w => w.operations
  | .mergeWhen w => w.operations
  | .mergeClauses ws => MergeWhen.operationsAll ws
  | .merge m => m.operations

end SqlTree
