import SqlTree.Proofs.Defect.Statement
import SqlTree.Proofs.Failure

/-! Statements that change data fail to render exactly on their defects, with the first one as the
error. -/
namespace SqlTree

theorem Doc.failure?_valuesRow (row : List Expr) : failure? (valuesRow row) = rowDefect? row := by
  simp [valuesRow, rowDefect?, Expr.failure?_docs, Expr.absent?_docs]

@[simp] theorem Doc.failure?_insertColumns (columns : List Ident) (overriding : Option Overriding) :
    failure? (insertColumns columns overriding) = none := by
  cases columns <;> simp [insertColumns]

@[simp] theorem Doc.failure?_whenHead (keyword : String) (condition : Option Expr) :
    failure? (whenHead keyword condition) = condition.bind (·.defect?) := by
  simp [whenHead, Expr.failure?_doc]

theorem InsertSource.failure?_doc (s : InsertSource) : s.doc.failure? = s.defect? := by
  match s with
  | .defaultValues => rfl
  | .values [] => rfl
  | .values [row] => simp [doc, defect?, absent?, Doc.failure?_valuesRow]
  | .values (row :: row' :: rows) =>
    have hrow : ∀ row, (Doc.text "ROW" ++ Doc.valuesRow row).failure? = rowDefect? row := by
      simp [Doc.failure?_valuesRow]
    have hrows := Doc.findSome?_failure?_map hrow (row :: row' :: rows)
    have hdoc : InsertSource.doc (.values (row :: row' :: rows)) =
        Doc.text "VALUES" ++
          Doc.lines ((row :: row' :: rows).map (Doc.text "ROW" ++ Doc.valuesRow ·)) := rfl
    rw [hdoc, Doc.failure?_append, Doc.failure?_text, Doc.failure?_lines, hrows]
    rfl
  | .query q => exact q.failure?_doc

/-- Counting rows while walking them finds the same row as numbering them first. -/
private theorem findSome?_zipIdx_rowLength (expected n : Nat) (rows : List (List Expr)) :
    ((rows.zipIdx n).findSome? fun (row, i) =>
      if row.length = expected then none
      else some (Problem.rowLength (some i) row.length expected)).map (.invalid "INSERT") =
      lengthDefect? expected n rows := by
  induction rows generalizing n with
  | nil => rfl
  | cons row rows ih =>
    rw [List.zipIdx_cons, List.findSome?_cons, lengthDefect?]
    by_cases h : row.length = expected
    · simpa [h] using ih (n + 1)
    · simp [h]

private theorem Insert.map_problem? (i : Insert) (h : i.columns ≠ []) :
    i.problem?.map (.invalid "INSERT") = i.source.columnDefect? i.columns.length := by
  have hcolumns : i.columns.isEmpty = false := by simpa using h
  rw [problem?, hcolumns]
  cases i.source with
  | defaultValues => rfl
  | values rows => exact findSome?_zipIdx_rowLength i.columns.length 1 rows
  | query q => rfl

theorem Insert.failure?_doc (i : Insert) : i.doc.failure? = i.defect? := by
  have hsource := i.source.failure?_doc
  cases hcolumns : i.columns with
  | nil =>
    have hproblem : i.problem? = none := by simp [problem?, hcolumns]
    simp [doc, defect?, hproblem, hcolumns, hsource]
  | cons name names =>
    have hproblem := i.map_problem? (by simp [hcolumns])
    have hdefect : i.defect? = (i.source.columnDefect? i.columns.length).or i.source.defect? := by
      rw [defect?, hcolumns]
    rw [hdefect, ← hproblem, doc]
    cases i.problem? with
    | none => simp [hsource]
    | some problem => rfl

theorem Assignment.failure?_doc (a : Assignment) : a.doc.failure? = a.defect? := by
  cases a with
  | column name value => simp [doc, defect?, value.failure?_doc]
  | row columns value =>
    have hnames := Doc.findSome?_failure?_map_none Doc.failure?_ident columns
    simp [doc, defect?, hnames, value.failure?_doc]
  | raw s => rfl

theorem RowFilter.failure?_doc (f : RowFilter) : f.doc.failure? = f.defect? := by
  cases f with
  | search condition => simp [doc, defect?, condition.failure?_doc]
  | currentOf cursor => rfl

theorem Update.failure?_doc (u : Update) : u.doc.failure? = u.defect? := by
  have hassignments := Doc.findSome?_failure?_map Assignment.failure?_doc u.assignments
  rw [doc, Doc.failure?_ite_missing, defect?]
  simp [hassignments, RowFilter.failure?_doc, Option.or_assoc]

theorem Delete.failure?_doc (d : Delete) : d.doc.failure? = d.defect? := by
  cases h : d.only <;> simp [doc, defect?, h, RowFilter.failure?_doc]

theorem Truncate.failure?_doc (t : Truncate) : t.doc.failure? = t.defect? := by
  have htables := Doc.findSome?_failure?_map_none TableName.failure?_doc t.tables
  rw [doc, Doc.failure?_ite_missing, defect?]
  simp [htables]

theorem MatchedAction.failure?_doc (a : MatchedAction) : a.doc.failure? = a.defect? := by
  cases a with
  | update assignments =>
    have hassignments := Doc.findSome?_failure?_map Assignment.failure?_doc assignments
    simp [doc, defect?, hassignments]
  | delete => rfl
  | doNothing => rfl

theorem MergeInsert.failure?_doc (i : MergeInsert) : i.doc.failure? = i.defect? := by
  obtain ⟨columns, overriding, values⟩ := i
  cases values with
  | none => cases columns <;> rfl
  | some row =>
    cases columns with
    | nil => simp [doc, problem?, defect?, Doc.failure?_valuesRow]
    | cons name names =>
      cases row with
      | nil => simp [doc, problem?, defect?, Doc.failure?_valuesRow, rowDefect?, absent?]
      | cons e es =>
        by_cases h : es.length = names.length <;>
          simp [doc, problem?, defect?, Doc.failure?_valuesRow, rowDefect?, absent?, h]

theorem NotMatchedAction.failure?_doc (a : NotMatchedAction) : a.doc.failure? = a.defect? := by
  cases a with
  | insert i => exact i.failure?_doc
  | doNothing => rfl

theorem MergeWhen.failure?_doc (w : MergeWhen) : w.doc.failure? = w.defect? := by
  cases w with
  | matched w => simp [doc, WhenMatched.doc, defect?, w.action.failure?_doc]
  | notMatched w => simp [doc, WhenNotMatched.doc, defect?, w.action.failure?_doc]

theorem Merge.failure?_doc (m : Merge) : m.doc.failure? = m.defect? := by
  have hclauses := Doc.findSome?_failure?_map MergeWhen.failure?_doc m.clauses
  simp [doc, defect?, hclauses, MergeWhen.docAll, Option.or_assoc, TableRef.failure?_doc,
    Expr.failure?_doc, -List.isEmpty_iff]

private theorem Problem.reason_rowLength (row : Option Nat) (found expected : Nat) :
    (rowLength row found expected).reason =
      row.elim "row" ("row " ++ ·.repr) ++ " has " ++ found.repr
        ++ (if found = 1 then " value" else " values") ++ ", expected " ++ expected.repr := by
  have hone : " " ++ "value" = " value" := rfl
  have hmany : " " ++ "values" = " values" := rfl
  cases row <;> by_cases h : found = 1 <;>
    simp [reason, h, String.append_assoc, ← hone, ← hmany]

/-- A statement that changes data has no text exactly if it has a defect, and the error is the first
one. A row of another length than the column list is named by its number, if it has one. -/
theorem render_error_iff_first_defect (c : Setting) (e : RenderError) :
    (∀ i : Insert, i.doc.render c = .error e ↔ i.defect? = some e) ∧
    (∀ u : Update, u.doc.render c = .error e ↔ u.defect? = some e) ∧
    (∀ d : Delete, d.doc.render c = .error e ↔ d.defect? = some e) ∧
    (∀ t : Truncate, t.doc.render c = .error e ↔ t.defect? = some e) ∧
    (∀ m : Merge, m.doc.render c = .error e ↔ m.defect? = some e) ∧
    (∀ (row : Option Nat) (found expected : Nat), (Problem.rowLength row found expected).reason =
      row.elim "row" ("row " ++ ·.repr) ++ " has " ++ found.repr
        ++ (if found = 1 then " value" else " values") ++ ", expected " ++ expected.repr) := by
  refine ⟨?_, ?_, ?_, ?_, ?_, Problem.reason_rowLength⟩
  · intro i
    rw [Doc.render_eq_error_iff, i.failure?_doc]
  · intro u
    rw [Doc.render_eq_error_iff, u.failure?_doc]
  · intro d
    rw [Doc.render_eq_error_iff, d.failure?_doc]
  · intro t
    rw [Doc.render_eq_error_iff, t.failure?_doc]
  · intro m
    rw [Doc.render_eq_error_iff, m.failure?_doc]

end SqlTree
