import SqlTree.Renderer.Operation

/-! How tables and all that stands in them ask a renderer to be written: names, values, expressions,
types, columns and constraints. -/
namespace SqlTree
open Operation

def SchemaName.operations (s : SchemaName) : List Operation :=
  [.visit [.part s.catalog .name, .word "."], .visit [.name s.schema]]

def QualifiedName.operations (n : QualifiedName) : List Operation :=
  [.visit [.part n.schema (.construct <| .schemaName ·), .word "."], .visit [.name n.name]]

def LocalName.operations (n : LocalName) : List Operation :=
  (if n.isModule then [.keyword "MODULE", .token '.'] else []) ++ [.name n.name]

def TableName.operations : TableName → List Operation
  | locally name => [.accept (.either (.inl (.construct (.localName name))))]
  | qualified name => [.accept (.either (.inr (.construct (.qualifiedName name))))]

def ColumnRef.operations (c : ColumnRef) : List Operation :=
  [.visit [.part c.table (.construct <| .tableName ·), .word "."], .visit [.name c.name]]

/-- Binary data stand between quotes that are written by hand. -/
def Value.operations : Value → List Operation
  | .null => [.keyword "NULL"]
  | .default => [.keyword "DEFAULT"]
  | .bool b => [.keyword (if b then "TRUE" else "FALSE")]
  | .int n => [.primitive (.int n)]
  | .uint n => [.primitive (.uint n)]
  | .float x => [.primitive (.float x)]
  | .text s => [.primitive (.string s)]
  | .blob bytes =>
    [.token 'X', .token '\x27', .primitive (.raw (upperHex bytes)), .token '\x27']
  | .row values =>
    [.keyword "ROW", .token '(', .join (values.map (.construct <| .value ·)) (.leaf Doc.comma),
      .token ')']

def Expr.operations : Expr → List Operation
  | .raw s => [.primitive (.raw s)]
  | .column c => [.construct (.columnRef c)]
  | .value v => [.construct (.value v)]
  | .call function arguments =>
    [.primitive (.raw function), .token '(',
      .join (arguments.map (.construct <| .expr ·)) (.leaf Doc.comma), .token ')']
  | .binary left operator right =>
    [.construct (.expr left), .space, .keyword operator, .space, .construct (.expr right)]
  | .not operand => [.keyword "NOT", .space, .construct (.expr operand)]
  | .isNull operand negated =>
    [.construct (.expr operand), .space, .keyword "IS", .space]
      ++ (if negated then [.keyword "NOT", .space] else []) ++ [.keyword "NULL"]
  | .inList operand values =>
    [.construct (.expr operand), .space, .keyword "IN", .space]
      ++ requireParen "IN" "value" (.items values (.construct <| .expr ·))
  | .nested inner => [.paren [.construct (.expr inner)]]
  | .over operand window =>
    [.construct (.expr operand), .space, .keyword "OVER", .space, .name window]

/-! Data types. -/

def Collation.operations (c : Collation) : List Operation :=
  [.keyword "COLLATE", .space, .visit [.construct (.qualifiedName c.name)]]

/-- The count is guarded together with its parentheses. -/
def Operation.measure (n : Option UInt64) : Operation :=
  .visit [.word "(", .part n (.leaf <| Doc.uint ·), .word ")"]

def CharacterType.operations (t : CharacterType) : List Operation :=
  [.accept (.spelled t.kind)]
    ++ given t.length (fun n =>
      [.token '(', .primitive (.uint n), .visit [.leaf .space, .part t.unit .spelled], .token ')'])
    ++ [.clause "CHARACTER SET" (.part t.charset (.construct <| .qualifiedName ·)),
      .after (.part t.collation (.construct <| .collation ·))]

def BinaryType.operations (t : BinaryType) : List Operation :=
  [.accept (.spelled t.kind), .measure t.length]

def NumericType.operations (t : NumericType) : List Operation :=
  [.accept (.spelled t.kind)]
    ++ given t.precision fun p =>
      [.token '(', .primitive (.uint p)]
        ++ given t.scale (fun s => [.primitive .separator, .space, .primitive (.uint s)])
        ++ [.token ')']

def DateTimeType.operations (t : DateTimeType) : List Operation :=
  [.accept (.spelled t.kind), .measure t.precision]
    ++ given t.timeZone fun zoned =>
      [.space, .keyword (if zoned then "WITH TIME ZONE" else "WITHOUT TIME ZONE")]

def DateTimeField.operations (f : DateTimeField) : List Operation :=
  [.accept (.spelled f.kind), .measure f.precision]

def IntervalType.operations (t : IntervalType) : List Operation :=
  [.keyword "INTERVAL", .space, .construct (.dateTimeField t.start),
    .clause "TO" (.part t.stop (.construct <| .dateTimeField ·))]

def RowField.operations (f : RowField) : List Operation :=
  [.name f.name, .space, .construct (.dataType f.type)]

def DataType.operations : DataType → List Operation
  | .character t => [.construct (.characterType t)]
  | .binary t => [.construct (.binaryType t)]
  | .numeric t => [.construct (.numericType t)]
  | .integer t => [.accept (.spelled t)]
  | .boolean t => [.accept (.spelled t)]
  | .dateTime t => [.construct (.dateTimeType t)]
  | .interval t => [.construct (.intervalType t)]
  | .array element capacity =>
    [.construct (.dataType element), .space, .keyword "ARRAY",
      .bracket [.part capacity (.leaf <| Doc.uint ·)]]
  | .multiset element => [.construct (.dataType element), .space, .keyword "MULTISET"]
  | .row fields =>
    [.keyword "ROW", .space]
      ++ requireParen "ROW type" "field" (.items fields (.construct <| .rowField ·))
  | .named name => [.construct (.qualifiedName name)]

/-! Columns. -/

def SequenceOption.operations : SequenceOption → List Operation
  | .startWith n => [.keyword "START WITH", .space, .primitive (.int n)]
  | .incrementBy n => [.keyword "INCREMENT BY", .space, .primitive (.int n)]
  | .maxValue (some n) => [.keyword "MAXVALUE", .space, .primitive (.int n)]
  | .maxValue none => [.keyword "NO MAXVALUE"]
  | .minValue (some n) => [.keyword "MINVALUE", .space, .primitive (.int n)]
  | .minValue none => [.keyword "NO MINVALUE"]
  | .cycle wraps => [.keyword (if wraps then "CYCLE" else "NO CYCLE")]

def Identity.operations (i : Identity) : List Operation :=
  [.keyword "GENERATED", .space, .accept (.spelled i.generated), .space, .keyword "AS IDENTITY"]
    ++ if i.options.isEmpty then [] else
      [.space, .token '(',
        .join (i.options.map (.construct <| .sequenceOption ·)) (.leaf Doc.comma), .token ')']

def ClockValue.operations (v : ClockValue) : List Operation :=
  [.accept (.spelled v.kind)]
    ++ given (v.precision.filter fun _ => v.kind ≠ .currentDate) fun n =>
      [.token '(', .primitive (.uint n), .token ')']

def DefaultOption.operations : DefaultOption → List Operation
  | .value v => [.construct (.value v)]
  | .raw s => [.primitive (.raw s)]
  | .session v => [.accept (.spelled v)]
  | .clock v => [.construct (.clockValue v)]
  | .emptyArray => [.keyword "ARRAY", .bracket []]
  | .emptyMultiset => [.keyword "MULTISET", .bracket []]

def DefaultClause.operations (d : DefaultClause) : List Operation :=
  [.keyword "DEFAULT", .space, .construct (.defaultOption d.option)]

def ColumnValue.operations : ColumnValue → List Operation
  | .default clause => [.construct (.defaultClause clause)]
  | .identity i => [.construct (.identity i)]
  | .generated e => [.keyword "GENERATED ALWAYS AS", .space, .paren [.construct (.expr e)]]
  | .rowStart => [.keyword "GENERATED ALWAYS AS ROW START"]
  | .rowEnd => [.keyword "GENERATED ALWAYS AS ROW END"]

def ColumnDef.operations (c : ColumnDef) : List Operation :=
  [.name c.name, .after (.part c.type (.construct <| .dataType ·)),
    .after (.part c.value (.construct <| .columnValue ·))]
    ++ trailing (c.constraints.map (.construct <| .columnConstraint ·))
    ++ [.after (.part c.collation (.construct <| .collation ·))]

def ColumnOptions.operations (c : ColumnOptions) : List Operation :=
  if c.isEmpty then [.fail (.invalid "column options" (.noColumnOptions c.name))] else
    [.name c.name, .space, .keyword "WITH OPTIONS",
      .clause "SCOPE" (.part c.scope (.construct <| .tableName ·)),
      .after (.part c.default (.construct <| .defaultClause ·))]
      ++ trailing (c.constraints.map (.construct <| .columnConstraint ·))

/-! Constraints. -/

/-- Each characteristic is a node, and those that are present are written. -/
def Characteristics.operations (c : Characteristics) : List Operation :=
  between .space <|
    ([.part c.checkTime .spelled,
      .part c.deferrable fun b => .word (if b then "DEFERRABLE" else "NOT DEFERRABLE"),
      .part c.enforced fun b => .word (if b then "ENFORCED" else "NOT ENFORCED")].filter
        fun n => !n.isAbsent).map ([.accept ·])

def References.operations (r : References) : List Operation :=
  [.keyword "REFERENCES", .space, .visit [.construct (.tableName r.table)]]
    ++ afterParens r.columns .name
    ++ [.clause "MATCH" (.part r.matchType .spelled),
      .clause "ON UPDATE" (.part r.onUpdate .spelled),
      .clause "ON DELETE" (.part r.onDelete .spelled)]

def Operation.check (condition : Expr) : List Operation :=
  [.keyword "CHECK", .space, .paren [.construct (.expr condition)]]

def ColumnRule.operations : ColumnRule → List Operation
  | .notNull => [.keyword "NOT NULL"]
  | .unique kind => [.accept (.spelled kind)]
  | .references target => [.construct (.references target)]
  | .check condition => Operation.check condition

def TableRule.operations : TableRule → List Operation
  | .unique kind columns =>
    [.accept (.spelled kind), .space]
      ++ requireParen "table constraint" "column" (.items columns .name)
  | .foreignKey columns target =>
    [.keyword "FOREIGN KEY", .space]
      ++ requireParen "foreign key" "column" (.items columns .name)
      ++ [.space, .construct (.references target)]
  | .check condition => Operation.check condition

def Constraint.operations {Rule : Type} (rule : Rule → List Operation) (c : Constraint Rule) :
    List Operation :=
  [.visit [.word "CONSTRAINT", .leaf .space, .part c.name (.construct <| .qualifiedName ·),
      .leaf .space]]
    ++ rule c.rule
    ++ [.after (.part c.characteristics (.construct <| .characteristics ·))]

/-! Tables. -/

def PeriodName.node : PeriodName → Node
  | .systemTime => .word "SYSTEM_TIME"
  | .application name => .name name

def Period.operations (p : Period) : List Operation :=
  [.keyword "PERIOD FOR", .space, .accept p.name.node, .space, .token '(', .name p.start,
    .primitive .separator, .space, .name p.stop, .token ')']

def LikeOption.operations (o : LikeOption) : List Operation :=
  [.keyword (if o.including then "INCLUDING" else "EXCLUDING"), .space,
    .accept (.spelled o.property)]

def Like.operations (l : Like) : List Operation :=
  [.keyword "LIKE", .space, .construct (.tableName l.table)]
    ++ trailing (l.options.map (.construct <| .likeOption ·))

def TableElement.operations : TableElement → List Operation
  | .column c => [.construct (.columnDef c)]
  | .constraint c => [.construct (.tableConstraint c)]
  | .period p => [.construct (.period p)]
  | .like l => [.construct (.like l)]

def SelfReference.operations (s : SelfReference) : List Operation :=
  [.keyword "REF IS", .space, .name s.name, .after (.part s.generation .spelled)]

def TypedElement.operations : TypedElement → List Operation
  | .column c => [.construct (.columnOptions c)]
  | .constraint c => [.construct (.tableConstraint c)]
  | .selfReference s => [.construct (.selfReference s)]

def TypedTable.operations (t : TypedTable) : List Operation :=
  [.keyword "OF", .space, .construct (.qualifiedName t.type)]
    ++ if t.elements.isEmpty then [] else
      [.space, .block (t.elements.map (.construct <| .typedElement ·))]

def TableContent.operations : TableContent → List Operation
  | .elements items => [.block (items.map (.construct <| .tableElement ·))]
  | .typed t => [.construct (.typedTable t)]

/-- A content that is absent takes its space along. -/
def CreateTable.operations (t : CreateTable) : List Operation :=
  [.keyword "CREATE", .after (.part t.scope .spelled), .space, .keyword "TABLE", .space,
    .construct (.tableName t.name), .after (.construct (.tableContent t.content)),
    .clause "WITH" (.part t.versioning .spelled),
    .clause "ON COMMIT" (.part t.onCommit .spelled)]

end SqlTree
