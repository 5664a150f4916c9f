import SqlTree.Proofs.Operation.Table
import SqlTree.Renderer.Operation.Statement

/-! Queries and statements write what their operations write, and so does every construct. -/
namespace SqlTree
open Operation

theorem Alias.docAll_operations (a : Alias) : docAll a.operations = a.doc := by
  simp [operations, doc]

theorem TableSample.docAll_operations (s : TableSample) : docAll s.operations = s.doc := by
  simp [operations, doc, Doc.clause, Doc.after]

theorem JoinSpec.docAll_operations (s : JoinSpec) : docAll s.operations = s.doc := by
  cases s <;> simp [operations, doc]

private theorem JoinKind.docAll_operations (k : JoinKind) :
    docAll k.operations ++ Doc.text "JOIN" = k.joinDoc := by
  simp [operations, joinDoc]

theorem TableRef.docAll_operations (t : TableRef) : docAll t.operations = t.doc := by
  cases t with
  | table t => cases h : t.only <;> simp [operations, doc, NamedTable.doc, h]
  | derived | nested | cross => simp [operations, doc]
  | qualified left kind right spec =>
    have hright : (visit [.construct (.tableRef right), .leaf .space,
        .construct (.joinSpec spec)]).node.doc = right.doc ++ Doc.space ++ spec.doc := by
      simp [node]
    simp [operations, doc, ← kind.docAll_operations, hright]
  | natural left kind right => simp [operations, doc, ← kind.docAll_operations]

theorem SelectItem.docAll_operations (i : SelectItem) : docAll i.operations = i.doc := by
  cases i with
  | all => rfl
  | allOf table => simp [operations, doc, dot]
  | expr e label => simp [operations, doc]

theorem SortKey.docAll_operations (k : SortKey) : docAll k.operations = k.doc := by
  simp [operations, doc, Doc.after, Doc.keyword]

theorem GroupingElement.docAll_operations (e : GroupingElement) : docAll e.operations = e.doc := by
  cases e with
  | columns cs =>
    rcases cs with _ | ⟨c, _ | ⟨c', cs⟩⟩
    · simp [operations, doc, columnsDoc]
    · simp [operations, doc, columnsDoc, Node.items, Doc.list, Doc.joined]
    · simp [operations, doc, columnsDoc]
  | rollup cs | cube cs => simp [operations, doc]
  | sets elements => simp [operations, doc, docs_eq_map]
  | empty => rfl

theorem GroupBy.docAll_operations (g : GroupBy) : docAll g.operations = g.doc := by
  simp [operations, doc, GroupingElement.docs_eq_map]

theorem FrameBound.docAll_operations (b : FrameBound) : docAll b.operations = b.doc := by
  cases b <;> simp [operations, doc]

theorem WindowFrame.docAll_operations (f : WindowFrame) : docAll f.operations = f.doc := by
  cases hproblem : f.problem? with
  | some problem => simp [operations, doc, Doc.invalid, hproblem]
  | none =>
    cases hstop : f.stop <;> simp [operations, doc, boundsDoc, Doc.after, hproblem, hstop]

/-- The nodes that are joined are the parts that are written. -/
private theorem WindowSpec.map_doc_nodes (w : WindowSpec) : w.nodes.map Node.doc = w.parts := by
  have hphrase {α : Type} (keyword : String) (f : α → Node) (as : List α) :
      (nodes.phrase keyword (as.map f)).map Node.doc =
        (Doc.phrase keyword (as.map fun a => (f a).doc)).toList := by
    cases as <;> simp [nodes.phrase, Doc.phrase]
  obtain ⟨_ | _, _, _, _ | _⟩ := w <;> simp [nodes, parts, hphrase]

theorem WindowSpec.docAll_operations (w : WindowSpec) : docAll w.operations = w.doc := by
  rw [operations, docAll_between, List.map_map, doc, ← map_doc_nodes]
  simp [Function.comp_def, Doc.spaced]

theorem WindowDef.docAll_operations (w : WindowDef) : docAll w.operations = w.doc := by
  simp [operations, doc, Doc.paren]

theorem Offset.docAll_operations (o : Offset) : docAll o.operations = o.doc := by
  simp [operations, doc, Doc.after, Doc.keyword]

theorem Fetch.docAll_operations (f : Fetch) : docAll f.operations = f.doc := by
  cases h : f.percent <;> simp [operations, doc, Doc.keyword, h]

private theorem LockWait.docAll_operations (w : LockWait) :
    docAll w.operations = Doc.space ++ w.doc := by
  cases w <;> simp [operations, doc]

theorem Lock.docAll_operations (l : Lock) : docAll l.operations = l.doc := by
  simp [operations, doc, LockWait.docAll_operations, Doc.after, Doc.keyword]

theorem Query.docAll_operations (q : Query) : docAll q.operations = q.doc := by
  cases q
  simp [operations, doc, TableRef.docs_eq_map]

/-! Statements. -/

@[simp] theorem Operation.docAll_valuesRow (row : List Expr) :
    docAll (valuesRow row) = Doc.valuesRow row := by
  simp [valuesRow, Doc.valuesRow, Expr.docs_eq_map]

theorem InsertSource.docAll_operations (s : InsertSource) : docAll s.operations = s.doc := by
  cases s with
  | defaultValues => rfl
  | query q => simp [operations, doc]
  | values rows =>
    rcases rows with _ | ⟨row, _ | ⟨row', rows⟩⟩
    · simp [operations, doc, Doc.missing]
    · simp [operations, doc]
    · simp [operations, doc, Function.comp_def, Doc.lines_eq_joined, Doc.lines.line]

@[simp] theorem Operation.docAll_insertColumns (columns : List Ident)
    (overriding : Option Overriding) :
    docAll (insertColumns columns overriding) = Doc.insertColumns columns overriding := by
  cases h : columns.isEmpty <;> simp [insertColumns, Doc.insertColumns, Doc.list, Doc.paren, h]

theorem Insert.docAll_operations (i : Insert) : docAll i.operations = i.doc := by
  cases h : i.problem? <;> simp [operations, doc, Doc.invalid, h]

theorem Assignment.docAll_operations (a : Assignment) : docAll a.operations = a.doc := by
  cases a <;> simp [operations, doc]

theorem RowFilter.docAll_operations (f : RowFilter) : docAll f.operations = f.doc := by
  cases f <;> simp [operations, doc]

@[simp] theorem Operation.docAll_named («alias» : Option Ident) :
    docAll (named «alias») = Doc.clause "AS" «alias» Doc.ident := by
  simp [named, Doc.clause, Doc.after]

@[simp] theorem Operation.docAll_filtered (filter : Option RowFilter) :
    docAll (filtered filter) = Doc.after filter (·.doc) := by
  simp [filtered, Doc.after]

theorem Update.docAll_operations (u : Update) : docAll u.operations = u.doc := by
  cases h : u.assignments.isEmpty <;> simp [operations, doc, Doc.missing, Doc.list, h]

theorem Delete.docAll_operations (d : Delete) : docAll d.operations = d.doc := by
  cases h : d.only <;> simp [operations, doc, h]

theorem Truncate.docAll_operations (t : Truncate) : docAll t.operations = t.doc := by
  cases h : t.tables.isEmpty <;> simp [operations, doc, Doc.missing, h]

theorem MatchedAction.docAll_operations (a : MatchedAction) : docAll a.operations = a.doc := by
  cases a <;> simp [operations, doc]

@[simp] theorem Operation.docAll_whenHead (keyword : String) (condition : Option Expr) :
    docAll (whenHead keyword condition) = Doc.whenHead keyword condition := by
  simp [whenHead, Doc.whenHead]

theorem WhenMatched.docAll_operations (w : WhenMatched) : docAll w.operations = w.doc := by
  simp [operations, doc]

theorem MergeInsert.docAll_operations (i : MergeInsert) : docAll i.operations = i.doc := by
  cases h : i.problem? with
  | some problem => simp [operations, doc, Doc.invalid, h]
  | none => cases hvalues : i.values <;> simp [operations, doc, h, hvalues]

theorem NotMatchedAction.docAll_operations (a : NotMatchedAction) :
    docAll a.operations = a.doc := by
  cases a <;> simp [operations, doc]

theorem WhenNotMatched.docAll_operations (w : WhenNotMatched) : docAll w.operations = w.doc := by
  simp [operations, doc]

theorem MergeWhen.docAll_operations (w : MergeWhen) : Operation.docAll w.operations = w.doc := by
  cases w <;> simp [operations, doc]

theorem MergeWhen.docAll_operationsAll (ws : List MergeWhen) :
    Operation.docAll (operationsAll ws) = docAll ws := by
  simp [operationsAll, docAll, Function.comp_def, Doc.spaced]

theorem Merge.docAll_operations (m : Merge) : docAll m.operations = m.doc := by
  have hclauses : (require "MERGE" "WHEN clause" (.construct (.mergeClauses m.clauses))).node.doc =
      if m.clauses.isEmpty then Doc.missing "MERGE" "WHEN clause"
      else MergeWhen.docAll m.clauses := rfl
  simp [operations, doc, hclauses]

/-- Every construct is written by its operations, one after the other. -/
theorem Construct.run_operations (r : Renderer) (k : Construct) :
    r.run k.operations = r.accept (.construct k) := by
  have hdoc {ops : List Operation} {d : Doc} (h : docAll ops = d) : r.run ops = r.write d := by
    rw [r.run_eq_write, h]
  cases k with
  | value v => exact v.run_operations r
  | expr e => exact e.run_operations r
  | keyword k => exact hdoc (List.append_nil _)
  | columnConstraint c => exact hdoc (Constraint.docAll_operations ColumnRule.docAll_operations c)
  | tableConstraint c => exact hdoc (Constraint.docAll_operations TableRule.docAll_operations c)
  | mergeClauses ws => exact hdoc (MergeWhen.docAll_operationsAll ws)
  | _ x => exact hdoc x.docAll_operations

end SqlTree
