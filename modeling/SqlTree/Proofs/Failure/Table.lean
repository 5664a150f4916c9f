import SqlTree.Proofs.Defect.Table
import SqlTree.Proofs.Failure

/-! Table definitions fail to render exactly on their defects, with the first one as the error. -/
namespace SqlTree

namespace Doc
variable (ds : List Doc)

@[simp] theorem failure?_bracket (d : Doc) : failure? (bracket d) = failure? d := by
  simp [bracket]

@[simp] theorem failure?_measure (n : Option UInt64) : failure? (measure n) = none := by
  simp [measure]

@[simp] theorem failure?_trailing : failure? (trailing ds) = ds.findSome? failure? := by
  simp [trailing, failure?_flatMap]

@[simp] theorem failure?_block : failure? (block ds) = ds.findSome? failure? := by
  cases ds <;> simp [block]

end Doc

@[simp] theorem Collation.failure?_doc (c : Collation) : c.doc.failure? = none := by
  simp [doc]

@[simp] theorem CharacterType.failure?_doc (t : CharacterType) : t.doc.failure? = none := by
  simp [doc]

@[simp] theorem BinaryType.failure?_doc (t : BinaryType) : t.doc.failure? = none := by
  simp [doc]

@[simp] theorem NumericType.failure?_doc (t : NumericType) : t.doc.failure? = none := by
  simp [doc]

@[simp] theorem DateTimeType.failure?_doc (t : DateTimeType) : t.doc.failure? = none := by
  simp [doc]

@[simp] theorem IntervalType.failure?_doc (t : IntervalType) : t.doc.failure? = none := by
  simp [doc, DateTimeField.doc]

theorem RowField.absent?_docs (node child : String) (fs : List RowField) :
    absent? node child (RowField.docs fs) = absent? node child fs := by
  cases fs <;> rfl

mutual

theorem DataType.failure?_doc : ∀ t : DataType, t.doc.failure? = t.defect?
  | .character t => t.failure?_doc
  | .binary t => t.failure?_doc
  | .numeric t => t.failure?_doc
  | .integer _ | .boolean _ => rfl
  | .dateTime t => t.failure?_doc
  | .interval t => t.failure?_doc
  | .array element _ => by
    have helement := element.failure?_doc
    simp [DataType.doc, DataType.defect?, helement]
  | .multiset element => by
    have helement := element.failure?_doc
    simp [DataType.doc, DataType.defect?, helement]
  | .row fields => by
    have hfields := RowField.failure?_docs fields
    simp [DataType.doc, DataType.defect?, hfields, RowField.absent?_docs]
  | .named name => name.failure?_doc

theorem RowField.failure?_doc : ∀ f : RowField, f.doc.failure? = f.defect?
  | { name, type } => by
    have htype := type.failure?_doc
    simp [RowField.doc, RowField.defect?, htype]

theorem RowField.failure?_docs :
    ∀ fs : List RowField, (RowField.docs fs).findSome? Doc.failure? = RowField.defectAll? fs
  | [] => rfl
  | f :: fs => by
    have hfirst := f.failure?_doc
    have hrest := RowField.failure?_docs fs
    rw [RowField.docs, Doc.findSome?_failure?_cons, hfirst, hrest, RowField.defectAll?]

end

@[simp] theorem Identity.failure?_doc (i : Identity) : i.doc.failure? = none := by
  have hoption : ∀ o : SequenceOption, o.doc.failure? = none := by
    intro o
    cases o with
    | startWith n => simp [SequenceOption.doc]
    | incrementBy n => simp [SequenceOption.doc]
    | maxValue bound => cases bound <;> simp [SequenceOption.doc]
    | minValue bound => cases bound <;> simp [SequenceOption.doc]
    | cycle wraps => cases wraps <;> rfl
  have hoptions := Doc.findSome?_failure?_map_none hoption i.options
  simp [doc, hoptions]

@[simp] theorem ClockValue.failure?_doc (v : ClockValue) : v.doc.failure? = none := by
  by_cases h : v.kind = .currentDate <;> simp [doc, h]

theorem DefaultClause.failure?_doc (d : DefaultClause) : d.doc.failure? = d.defect? := by
  obtain ⟨option⟩ := d
  cases option <;> simp [doc, defect?, DefaultOption.doc, Value.failure?_doc]

theorem ColumnValue.failure?_doc (v : ColumnValue) : v.doc.failure? = v.defect? := by
  cases v <;> simp [doc, defect?, DefaultClause.failure?_doc, Expr.failure?_doc]

@[simp] theorem References.failure?_doc (r : References) : r.doc.failure? = none := by
  have hnames := Doc.findSome?_failure?_map_none Doc.failure?_ident r.columns
  simp [doc, hnames]

private theorem failure?_checkDoc (condition : Expr) :
    (checkDoc condition).failure? = condition.defect? := by
  simp [checkDoc, condition.failure?_doc]

theorem ColumnRule.failure?_doc (r : ColumnRule) : r.doc.failure? = r.defect? := by
  cases r <;> simp [doc, defect?, failure?_checkDoc]

theorem TableRule.failure?_doc (r : TableRule) : r.doc.failure? = r.defect? := by
  have hnames := Doc.findSome?_failure?_map_none Doc.failure?_ident
  cases r <;> simp [doc, defect?, failure?_checkDoc, hnames]

@[simp] theorem Characteristics.failure?_doc (c : Characteristics) : c.doc.failure? = none := by
  have hkeywords := Doc.findSome?_failure?_map_none Doc.failure?_text c.keywords
  rw [doc, Doc.failure?_spaced, hkeywords]

/-- Neither the name of a constraint nor its characteristics fail, so its rule decides. -/
theorem Constraint.failure?_doc {Rule : Type} {rule : Rule → Doc}
    {defect : Rule → Option RenderError} (h : ∀ r, (rule r).failure? = defect r)
    (c : Constraint Rule) : (c.doc rule).failure? = defect c.rule := by
  simp [doc, h]

theorem ColumnConstraint.failure?_doc (c : ColumnConstraint) : c.doc.failure? = c.rule.defect? :=
  Constraint.failure?_doc ColumnRule.failure?_doc c

theorem TableConstraint.failure?_doc (c : TableConstraint) : c.doc.failure? = c.rule.defect? :=
  Constraint.failure?_doc TableRule.failure?_doc c

theorem ColumnDef.failure?_doc (c : ColumnDef) : c.doc.failure? = c.defect? := by
  have hconstraints := Doc.findSome?_failure?_map ColumnConstraint.failure?_doc c.constraints
  simp [doc, defect?, hconstraints, DataType.failure?_doc, ColumnValue.failure?_doc,
    Option.or_assoc]

/-- Without any option the error comes before the name of the column, let alone its parts. -/
theorem ColumnOptions.failure?_doc (c : ColumnOptions) : c.doc.failure? = c.defect? := by
  obtain ⟨name, scope, default, constraints⟩ := c
  have hconstraints := Doc.findSome?_failure?_map ColumnConstraint.failure?_doc constraints
  cases scope <;> cases default <;> cases constraints <;>
    simp_all [doc, isEmpty, defect?, DefaultClause.failure?_doc]

theorem TableElement.failure?_doc (e : TableElement) : e.doc.failure? = e.defect? := by
  cases e with
  | column c => exact c.failure?_doc
  | constraint c => exact TableConstraint.failure?_doc c
  | period p => cases h : p.name <;> simp [doc, Period.doc, defect?, PeriodName.doc, h]
  | like l =>
    have hoptions := Doc.findSome?_failure?_map_none (f := LikeOption.doc)
      (by simp [LikeOption.doc]) l.options
    simp [doc, Like.doc, defect?, hoptions]

theorem TypedElement.failure?_doc (e : TypedElement) : e.doc.failure? = e.defect? := by
  cases e with
  | column c => exact c.failure?_doc
  | constraint c => exact TableConstraint.failure?_doc c
  | selfReference s => simp [doc, SelfReference.doc, defect?]

theorem TableContent.failure?_doc (c : TableContent) : c.doc.failure? = c.defect? := by
  cases c with
  | elements items =>
    have hitems := Doc.findSome?_failure?_map TableElement.failure?_doc items
    simp [doc, defect?, hitems]
  | typed t =>
    have helements := Doc.findSome?_failure?_map TypedElement.failure?_doc t.elements
    cases h : t.elements <;> simp_all [doc, TypedTable.doc, defect?]

/-- Content that is left out has no defects. -/
private theorem TableContent.defect?_of_isEmpty {c : TableContent} (h : c.isEmpty = true) :
    c.defect? = none := by
  cases c with
  | elements items => simp [defect?, List.isEmpty_iff.mp h]
  | typed t => cases h

theorem CreateTable.failure?_doc (t : CreateTable) : t.doc.failure? = t.defect? := by
  have hcontent := t.content.failure?_doc
  by_cases h : t.content.isEmpty = true
  · simp [doc, defect?, h, TableContent.defect?_of_isEmpty h]
  · simp [doc, defect?, h, hcontent]

/-- A table definition has no text exactly if one of its elements has a defect, and the error names
the first defect. A definition without elements has none. -/
theorem CreateTable.render_error_iff_element_defect (t : CreateTable) (c : Setting) :
    (∀ e : RenderError, t.doc.render c = .error e ↔ t.defect? = some e) ∧
    ((∃ sql, t.doc.render c = .ok sql) ↔ t.defect? = none) ∧
    ∃ sql, { t with content := .elements [] }.doc.render c = .ok sql := by
  refine ⟨fun e => ?_, ?_, ?_⟩
  · rw [Doc.render_eq_error_iff, t.failure?_doc]
  · rw [Doc.exists_render_eq_ok_iff, t.failure?_doc]
  · rw [Doc.exists_render_eq_ok_iff, CreateTable.failure?_doc]
    rfl

end SqlTree
