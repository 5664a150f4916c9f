import SqlTree.Proofs.Part

/-! Every construct is put together from its texts and its parts, so its parts are written inside of
it just as they are written on their own. -/
namespace SqlTree
open Doc

theorem Value.docs_eq_map (vs : List Value) : Value.docs vs = vs.map (·.doc) := by
  induction vs with
  | nil => rfl
  | cons v vs ih => exact congrArg (v.doc :: ·) ih

theorem Expr.docs_eq_map (es : List Expr) : Expr.docs es = es.map (·.doc) := by
  induction es with
  | nil => rfl
  | cons e es ih => exact congrArg (e.doc :: ·) ih

theorem RowField.docs_eq_map (fs : List RowField) : RowField.docs fs = fs.map (·.doc) := by
  induction fs with
  | nil => rfl
  | cons f fs ih => exact congrArg (f.doc :: ·) ih

theorem GroupingElement.docs_eq_map (es : List GroupingElement) :
    GroupingElement.docs es = es.map (·.doc) := by
  induction es with
  | nil => rfl
  | cons e es ih => exact congrArg (e.doc :: ·) ih

theorem TableRef.docs_eq_map (ts : List TableRef) : TableRef.docs ts = ts.map (·.doc) := by
  induction ts with
  | nil => rfl
  | cons t ts ih => exact congrArg (t.doc :: ·) ih

private theorem Value.composed_docs (vs : List Value) :
    ComposedAll (Value.docs vs) (vs.map .value) := by
  rw [docs_eq_map]
  exact .map .value vs

private theorem Expr.composed_docs (es : List Expr) :
    ComposedAll (Expr.docs es) (es.map .expr) := by
  rw [docs_eq_map]
  exact .map .expr es

private theorem RowField.composed_docs (fs : List RowField) :
    ComposedAll (RowField.docs fs) (fs.map .rowField) := by
  rw [docs_eq_map]
  exact .map .rowField fs

private theorem GroupingElement.composed_docs (es : List GroupingElement) :
    ComposedAll (GroupingElement.docs es) (es.map .groupingElement) := by
  rw [docs_eq_map]
  exact .map .groupingElement es

private theorem TableRef.composed_docs (ts : List TableRef) :
    ComposedAll (TableRef.docs ts) (ts.map .tableRef) := by
  rw [docs_eq_map]
  exact .map .tableRef ts

namespace Construct

/-- What the document of a construct has to be: its own texts and its parts, in order. -/
def Whole (n : Construct) : Prop :=
  Composed n.doc n.texts n.parts

end Construct

private theorem LocalName.whole (n : LocalName) : (Construct.localName n).Whole := by
  refine .own ?_
  simp only [Construct.doc, doc]
  split <;> rfl

private theorem Value.whole (v : Value) : (Construct.value v).Whole := by
  cases v
  case row values => exact (composed_docs values).joined.paren.right
  case float x => exact .own (isOwn_eq_true (Doc.float x))
  all_goals exact .own rfl

private theorem Expr.whole (e : Expr) : (Construct.expr e).Whole := by
  have part (e : Expr) : Composed e.doc [] [.expr e] := .part (.expr e)
  cases e with
  | raw s => exact .verbatim s
  | column c => exact .part (.columnRef c)
  | value v => exact .part (.value v)
  | call function arguments => exact .call function (composed_docs arguments).joined.paren
  | binary l operator r =>
    exact ((part l).left.append (.verbatim operator)).left.append (part r)
  | not operand => exact (part operand).right
  | isNull operand negated => exact (part operand).left.left.left.left.left
  | inList operand values =>
    exact (part operand).left.left.left.append (composed_docs values).required.paren
  | nested inner => exact (part inner).paren
  | «over» operand window => exact (part operand).left.left.left.left

private theorem DataType.whole (t : DataType) : (Construct.dataType t).Whole := by
  have element (t : DataType) : Composed t.doc [] [.dataType t] := .part (.dataType t)
  cases t with
  | character t => exact .part (.characterType t)
  | binary t => exact .part (.binaryType t)
  | numeric t => exact .part (.numericType t)
  | integer t => exact .own rfl
  | boolean t => exact .own rfl
  | dateTime t => exact .part (.dateTimeType t)
  | interval t => exact .part (.intervalType t)
  | array t capacity => exact (element t).left.left.left
  | multiset t => exact (element t).left.left
  | row fields => exact (RowField.composed_docs fields).required.paren.right
  | named name => exact .part (.qualifiedName name)

private theorem Characteristics.whole (c : Characteristics) :
    (Construct.characteristics c).Whole := by
  refine .own (isOwn_joined fun d hd => ?_)
  obtain ⟨s, -, rfl⟩ := List.mem_map.mp hd
  exact isOwn_eq_true (text s)

private theorem References.whole (r : References) : (Construct.references r).Whole := by
  have htable := (Composed.part (.tableName r.table)).right (d := text "REFERENCES" ++ space)
  exact htable.left.left.left.left

private theorem composed_checkDoc (condition : Expr) :
    Composed (checkDoc condition) [] [.expr condition] :=
  (Composed.part (.expr condition)).paren.right

private theorem ColumnRule.composed (r : ColumnRule) : Composed r.doc [] r.parts := by
  cases r with
  | notNull => exact .own rfl
  | unique kind => exact .own rfl
  | references target => exact .part (.references target)
  | check condition => exact composed_checkDoc condition

private theorem TableRule.composed (r : TableRule) : Composed r.doc [] r.parts := by
  cases r with
  | unique kind columns => exact .own (by simp [doc])
  | foreignKey columns target => exact (Composed.part (.references target)).right
  | check condition => exact composed_checkDoc condition

private theorem Constraint.composed {Rule : Type} {doc : Rule → Doc} {parts : Rule → List Construct}
    (h : ∀ r, Composed (doc r) [] (parts r)) (c : Constraint Rule) :
    Composed (c.doc doc) [] (c.parts parts) := by
  have hname (n : QualifiedName) :
      Composed (text "CONSTRAINT" ++ space ++ n.doc ++ space) [] [.qualifiedName n] :=
    (Composed.part (.qualifiedName n)).right.left
  exact ((Composed.optional .qualifiedName c.name hname).append (h c.rule)).append
    (.after .characteristics _)

private theorem SelectItem.whole (i : SelectItem) : (Construct.selectItem i).Whole := by
  cases i with
  | all => exact .own rfl
  | allOf table => exact (Composed.part (.tableName table)).left.left
  | expr e label => exact (Composed.part (.expr e)).left

private theorem NamedTable.composed (t : NamedTable) : Composed t.doc [] t.parts := by
  have hname := (Composed.part (.tableName t.name)).right
    (d := if t.only then text "ONLY" ++ space else [])
  exact (hname.append (.after .alias t.alias)).append (.after .tableSample t.sample)

private theorem TableRef.whole (t : TableRef) : (Construct.tableRef t).Whole := by
  have part (t : TableRef) : Composed t.doc [] [.tableRef t] := .part (.tableRef t)
  cases t with
  | table t => exact t.composed
  | derived query label =>
    exact (Composed.part (.query query)).paren.left.append (.requiredPart _ _ .alias label)
  | nested inner label => exact (part inner).paren.append (.after .alias label)
  | cross l r => exact (part l).left.left.left.append (part r)
  | qualified l kind r spec =>
    exact ((part l).left.left.left.append (part r)).left.append (.part (.joinSpec spec))
  | natural l kind r => exact (part l).left.left.left.left.left.append (part r)

private theorem Query.whole (q : Query) : (Construct.query q).Whole := by
  obtain ⟨quantifier, items, tables, condition, groupBy, having, windows, orderBy, limit, offset,
    fetch, lock⟩ := q
  exact (ComposedAll.map .selectItem items).required.right
    |>.append (TableRef.composed_docs tables).listClause
    |>.append (.clause _ .expr condition)
    |>.append (.after .groupBy groupBy)
    |>.append (.clause _ .expr having)
    |>.append (ComposedAll.map .windowDef windows).listClause
    |>.append (ComposedAll.map .sortKey orderBy).listClause
    |>.left
    |>.append (.after .offset offset)
    |>.append (.after .fetch fetch)
    |>.append (.after .lock lock)

private theorem GroupingElement.whole (e : GroupingElement) :
    (Construct.groupingElement e).Whole := by
  have columns (cs : List ColumnRef) : ComposedAll (cs.map (·.doc)) (cs.map .columnRef) :=
    .map .columnRef cs
  cases e with
  | columns cs =>
    match cs with
    | [] => exact .own rfl
    | [c] => exact .part (.columnRef c)
    | c :: b :: cs => exact (columns (c :: b :: cs)).required.paren
  | rollup cs => exact (columns cs).required.paren.right
  | cube cs => exact (columns cs).required.paren.right
  | sets elements => exact (composed_docs elements).required.paren.right
  | empty => exact .own rfl

private theorem WindowFrame.composed_bounds (f : WindowFrame) :
    Composed f.boundsDoc [] ([.frameBound f.start] ++ f.stop.toList.map .frameBound) := by
  unfold boundsDoc
  cases f.stop with
  | none => exact .part (.frameBound f.start)
  | some stop =>
    have hstart := (Composed.part (.frameBound f.start)).right (d := text "BETWEEN" ++ space)
    exact hstart.left.left.left.append (.part (.frameBound stop))

private theorem WindowFrame.whole {f : WindowFrame} (h : f.doc.failure? = none) :
    (Construct.windowFrame f).Whole := by
  change Composed f.doc _ _
  unfold WindowFrame.doc at h ⊢
  split at h
  · cases h
  · exact f.composed_bounds.right.left

private theorem WindowSpec.whole (w : WindowSpec) : (Construct.windowSpec w).Whole := by
  have hexisting : ComposedAll (w.existing.map ident).toList [] := by
    cases w.existing with
    | none => exact .nil
    | some i => exact .cons (.own rfl) .nil
  have hframe : ComposedAll (w.frame.map (·.doc)).toList (w.frame.toList.map .windowFrame) := by
    cases w.frame with
    | none => exact .nil
    | some f => exact .cons (.part (.windowFrame f)) .nil
  have hpartition := (ComposedAll.map .columnRef w.partitionBy).phrase (k := "PARTITION BY")
  have horder := (ComposedAll.map .sortKey w.orderBy).phrase (k := "ORDER BY")
  exact (((hexisting.append hpartition).append horder).append hframe).joined

private theorem Identity.whole (i : Identity) : (Construct.identity i).Whole :=
  (ComposedAll.map .sequenceOption i.options).afterParens.right

private theorem SequenceOption.whole (o : SequenceOption) : (Construct.sequenceOption o).Whole := by
  refine .own ?_
  cases o with
  | startWith n => rfl
  | incrementBy n => rfl
  | maxValue bound => cases bound <;> rfl
  | minValue bound => cases bound <;> rfl
  | cycle wraps => cases wraps <;> rfl

private theorem ClockValue.whole (v : ClockValue) : (Construct.clockValue v).Whole := by
  refine .own ?_
  simp only [Construct.doc, doc]
  split <;> simp

private theorem ColumnValue.whole (v : ColumnValue) : (Construct.columnValue v).Whole := by
  cases v with
  | default clause => exact .part (.defaultClause clause)
  | identity i => exact .part (.identity i)
  | generated e => exact (Composed.part (.expr e)).paren.right
  | rowStart => exact .own rfl
  | rowEnd => exact .own rfl

private theorem Period.whole (p : Period) : (Construct.period p).Whole := by
  have hname : isOwn p.name.doc = true := by cases p.name <;> rfl
  exact .own (by simp [Construct.doc, doc, hname])

private theorem ColumnDef.whole (c : ColumnDef) : (Construct.columnDef c).Whole :=
  (Composed.after .dataType c.type).right.append (.after .columnValue c.value)
    |>.append (ComposedAll.map .columnConstraint c.constraints).trailing
    |>.append (.after .collation c.collation)

private theorem ColumnOptions.whole {c : ColumnOptions} (h : c.doc.failure? = none) :
    (Construct.columnOptions c).Whole := by
  change Composed c.doc _ _
  unfold ColumnOptions.doc at h ⊢
  split
  · rw [if_pos ‹_›] at h
    cases h
  · exact (Composed.clause _ .tableName c.scope).right.append (.after .defaultClause c.default)
      |>.append (ComposedAll.map .columnConstraint c.constraints).trailing

private theorem TypedTable.whole (t : TypedTable) : (Construct.typedTable t).Whole := by
  have helements : Composed (if t.elements.isEmpty then [] else
      space ++ block (t.elements.map (·.doc))) [] (t.elements.map .typedElement) := by
    cases t.elements with
    | nil => exact .nil
    | cons e es => exact (ComposedAll.map .typedElement (e :: es)).block.right
  exact (Composed.part (.qualifiedName t.type)).right.append helements

private theorem CreateTable.whole (t : CreateTable) : (Construct.createTable t).Whole := by
  have hcontent : Composed (if t.content.isEmpty then [] else space ++ t.content.doc) []
      (if t.content.isEmpty then [] else [.tableContent t.content]) := by
    split
    · exact .nil
    · exact (Composed.part (.tableContent t.content)).right
  exact ((Composed.part (.tableName t.name)).right.append hcontent).left.left

private theorem TableSample.whole (s : TableSample) : (Construct.tableSample s).Whole := by
  have hseed (e : Expr) : Composed (space ++ (text "REPEATABLE" ++ space ++ Doc.paren e.doc)) []
      [.expr e] :=
    (Composed.part (.expr e)).paren.right.right
  exact (Composed.part (.expr s.percent)).paren.right.append (.optional .expr s.seed hseed)

private theorem Assignment.whole (a : Assignment) : (Construct.assignment a).Whole := by
  cases a with
  | column name e => exact (Composed.part (.expr e)).right
  | row columns e => exact (Composed.part (.expr e)).right
  | raw s => exact .verbatim s

private theorem valuesRow_composed (row : List Expr) :
    Composed (valuesRow row) [] (row.map .expr) :=
  (Expr.composed_docs row).required.paren

private theorem InsertSource.whole (s : InsertSource) : (Construct.insertSource s).Whole := by
  have hlines (rows : List (List Expr)) :
      ComposedAll (rows.map (text "ROW" ++ valuesRow ·)) (rows.flatten.map .expr) := by
    induction rows with
    | nil => exact .nil
    | cons row rows ih =>
      rw [List.flatten_cons, List.map_append]
      exact .cons (valuesRow_composed row).right ih
  cases s with
  | defaultValues => exact .own rfl
  | query q => exact .part (.query q)
  | values rows =>
    match rows with
    | [] => exact .own rfl
    | [row] =>
      have hrow := (valuesRow_composed row).right (d := text "VALUES" ++ space)
      have hparts : [row].flatten.map Construct.expr = row.map .expr := by simp
      change Composed (text "VALUES" ++ space ++ valuesRow row) [] ([row].flatten.map .expr)
      rwa [hparts]
    | row :: next :: rows => exact (hlines (row :: next :: rows)).lines.right

private theorem Insert.whole {i : Insert} (h : i.doc.failure? = none) :
    (Construct.insert i).Whole := by
  change Composed i.doc _ _
  unfold Insert.doc at h ⊢
  split at h
  · cases h
  · have htable := (Composed.part (.tableName i.table)).right (d := text "INSERT INTO" ++ space)
    exact htable.left.left.append (.part (.insertSource i.source))

private theorem Update.whole {u : Update} (h : u.doc.failure? = none) :
    (Construct.update u).Whole := by
  change Composed u.doc _ _
  unfold Update.doc at h ⊢
  split
  · rw [if_pos ‹_›] at h
    cases h
  · have htable := (Composed.part (.tableName u.table)).right (d := text "UPDATE" ++ space)
    exact htable.left.left.left.left.append (ComposedAll.map .assignment u.assignments).joined
      |>.append (.after .rowFilter u.filter)

private theorem Truncate.whole {t : Truncate} (h : t.doc.failure? = none) :
    (Construct.truncate t).Whole := by
  change Composed t.doc _ _
  unfold Truncate.doc at h ⊢
  split
  · rw [if_pos ‹_›] at h
    cases h
  · exact (ComposedAll.map .tableName t.tables).joined.right.left.left

private theorem Delete.whole (d : Delete) : (Construct.delete d).Whole := by
  have htable := (Composed.part (.tableName d.table)).right
    (d := text "DELETE FROM" ++ space ++ if d.only then text "ONLY" ++ space else [])
  exact htable.left.append (.after .rowFilter d.filter)

private theorem Fetch.whole (f : Fetch) : (Construct.fetch f).Whole := by
  exact .own (by simp [Construct.doc, doc])

private theorem Lock.whole (l : Lock) : (Construct.lock l).Whole := by
  have hwait (w : LockWait) : Own w.doc := ⟨by cases w <;> rfl⟩
  have htables := (ComposedAll.map .tableName l.tables).listClause (k := "OF")
  exact htables.right.left

private theorem whenHead_composed {e : Doc} {ms : List Construct} (k : String)
    (condition : Option Expr) (he : Composed e [] ms) :
    Composed (whenHead k condition ++ e) [] (condition.toList.map .expr ++ ms) := by
  have hcondition (e : Expr) : Composed (text "AND" ++ space ++ e.doc ++ space) [] [.expr e] :=
    (Composed.part (.expr e)).right.left
  exact (Composed.optional .expr condition hcondition).right.left.left.append he

private theorem MergeInsert.whole {i : MergeInsert} (h : i.doc.failure? = none) :
    (Construct.mergeInsert i).Whole := by
  change Composed i.doc [] (i.values.toList.flatten.map .expr)
  unfold MergeInsert.doc at h ⊢
  split at h
  · cases h
  · rename_i hvalues
    rw [hvalues]
    exact .own rfl
  · rename_i row _ hrow
    have hvalues := (valuesRow_composed row).right
      (d := text "INSERT" ++ space ++ insertColumns i.columns i.overriding ++ text "VALUES"
        ++ space)
    simpa [hrow] using hvalues

private theorem Merge.whole (m : Merge) : (Construct.merge m).Whole := by
  have hclauses : Composed (if m.clauses.isEmpty then missing "MERGE" "WHEN clause"
      else MergeWhen.docAll m.clauses) [] (m.clauses.map .mergeWhen) := by
    cases m.clauses with
    | nil => exact .own rfl
    | cons w ws => exact (ComposedAll.map .mergeWhen (w :: ws)).joined
  have htarget := (Composed.part (.tableName m.target)).right (d := text "MERGE INTO" ++ space)
  exact htarget.left.left.left.left.append (.requiredPart _ _ .tableRef m.source)
    |>.left |>.left |>.left |>.append (.requiredPart _ _ .expr m.on)
    |>.left |>.append hclauses

namespace Construct

/-- Nothing but an error keeps a construct from writing its texts and its parts. -/
theorem whole {n : Construct} (h : n.doc.failure? = none) : n.Whole := by
  cases n
  case schemaName n => exact .own (by simp [doc, SchemaName.doc])
  case qualifiedName n =>
    have hname (s : SchemaName) := (Composed.part (.schemaName s)).left (e := dot)
    exact (Composed.optional .schemaName n.schema hname).left
  case localName n => exact n.whole
  case tableName n =>
    cases n with
    | locally n => exact .part (.localName n)
    | qualified n => exact .part (.qualifiedName n)
  case columnRef c =>
    exact (Composed.optional .tableName c.table fun t => (Composed.part (.tableName t)).left).left
  case value v => exact v.whole
  case expr e => exact e.whole
  case collation c => exact (Composed.part (.qualifiedName c.name)).right
  case characterType t =>
    exact (Composed.clause _ .qualifiedName t.charset).right.append (.after .collation t.collation)
  case intervalType t =>
    exact (Composed.part (.dateTimeField t.start)).right.append (.clause _ .dateTimeField t.stop)
  case rowField f =>
    obtain ⟨name, type⟩ := f
    exact (Composed.part (.dataType type)).right
  case dataType t => exact t.whole
  case identity i => exact i.whole
  case defaultOption o =>
    cases o
    case value v => exact .part (.value v)
    case clock v => exact .part (.clockValue v)
    case raw s => exact .verbatim s
    all_goals exact .own rfl
  case defaultClause d => exact (Composed.part (.defaultOption d.option)).right
  case columnValue v => exact v.whole
  case columnDef c => exact c.whole
  case columnOptions c => exact c.whole h
  case references r => exact r.whole
  case columnConstraint c => exact Constraint.composed ColumnRule.composed c
  case tableConstraint c => exact Constraint.composed TableRule.composed c
  case like l =>
    exact (Composed.part (.tableName l.table)).right.append
      (ComposedAll.map .likeOption l.options).trailing
  case tableElement e =>
    cases e with
    | column c => exact .part (.columnDef c)
    | constraint c => exact .part (.tableConstraint c)
    | period p => exact .part (.period p)
    | like l => exact .part (.like l)
  case typedElement e =>
    cases e with
    | column c => exact .part (.columnOptions c)
    | constraint c => exact .part (.tableConstraint c)
    | selfReference s => exact .part (.selfReference s)
  case typedTable t => exact t.whole
  case tableContent c =>
    cases c with
    | elements items => exact (ComposedAll.map .tableElement items).block
    | typed t => exact .part (.typedTable t)
  case createTable t => exact t.whole
  case tableSample s => exact s.whole
  case joinSpec s =>
    cases s with
    | on condition => exact (Composed.part (.expr condition)).right
    | «using» columns => exact .own (by simp [doc, JoinSpec.doc])
  case tableRef t => exact t.whole
  case selectItem i => exact i.whole
  case sortKey k => exact (Composed.part (.expr k.expr)).left.left
  case groupingElement e => exact e.whole
  case groupBy g => exact (GroupingElement.composed_docs g.elements).required.right
  case frameBound b =>
    cases b
    case preceding distance => exact (Composed.part (.expr distance)).left.left
    case following distance => exact (Composed.part (.expr distance)).left.left
    all_goals exact .own rfl
  case windowFrame f => exact f.whole h
  case windowSpec w => exact w.whole
  case windowDef w => exact (Composed.part (.windowSpec w.spec)).paren.right
  case lock l => exact l.whole
  case query q => exact q.whole
  case insertSource s => exact s.whole
  case insert i => exact i.whole h
  case assignment a => exact a.whole
  case rowFilter f =>
    cases f with
    | search condition => exact (Composed.part (.expr condition)).right
    | currentOf cursor => exact .own rfl
  case update u => exact u.whole h
  case delete d => exact d.whole
  case truncate t => exact t.whole h
  case matchedAction a =>
    cases a with
    | update assignments => exact (ComposedAll.map .assignment assignments).required.right
    | delete => exact .own rfl
    | doNothing => exact .own rfl
  case whenMatched w => exact whenHead_composed _ w.condition (.part (.matchedAction w.action))
  case mergeInsert i => exact i.whole h
  case notMatchedAction a =>
    cases a with
    | insert i => exact .part (.mergeInsert i)
    | doNothing => exact .own rfl
  case whenNotMatched w =>
    exact whenHead_composed _ w.condition (.part (.notMatchedAction w.action))
  case mergeWhen w =>
    cases w with
    | matched w => exact .part (.whenMatched w)
    | notMatched w => exact .part (.whenNotMatched w)
  case mergeClauses ws => exact (ComposedAll.map .mergeWhen ws).joined
  case merge m => exact m.whole
  case binaryType t => exact .own (by simp [doc, BinaryType.doc])
  case numericType t => exact .own (by simp [doc, NumericType.doc])
  case dateTimeType t => exact .own (by simp [doc, DateTimeType.doc])
  case dateTimeField f => exact .own (by simp [doc, DateTimeField.doc])
  case keyword k => exact .own (isOwn_eq_true (Doc.keyword k))
  case sequenceOption o => exact o.whole
  case clockValue v => exact v.whole
  case characteristics c => exact c.whole
  case period p => exact p.whole
  case likeOption o => exact .own (by simp [doc, LikeOption.doc])
  case selfReference s => exact .own (by simp [doc, SelfReference.doc])
  case «alias» a => exact .own (by simp [doc, Alias.doc])
  case offset o => exact .own (by simp [doc, Offset.doc])
  case fetch f => exact f.whole

/-- What stands in a construct is written there as on its own, at any depth. -/
theorem Occurs.doc_infix {m n : Construct} (hm : m.Occurs n) (h : n.doc.failure? = none) :
    m.doc <:+: n.doc := by
  induction hm with
  | here => exact List.infix_rfl
  | inside hp _ ih =>
    have hpart := (whole h).infix_doc _ hp
    exact (ih (failure?_mono hpart h)).trans hpart

end Construct
end SqlTree
