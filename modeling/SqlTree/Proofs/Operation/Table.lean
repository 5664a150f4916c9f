import SqlTree.Proofs.Operation.Doc
import SqlTree.Proofs.Part.Construct
import SqlTree.Proofs.Quoted
import SqlTree.Proofs.Word
import SqlTree.Renderer.Operation.Table

/-! Names, values, expressions, types, columns and tables write what their operations write. -/
namespace SqlTree
open Operation

/-- A qualifier is visited together with its dot. -/
private theorem docAll_qualified {α : Type} {f : α → Node} (hf : ∀ a, (f a).isAbsent = false)
    (value : Option α) (i : Ident) :
    docAll [.visit [.part value f, .word "."], .visit [.name i]] =
      Doc.optional value (fun a => (f a).doc ++ dot) ++ Doc.ident i := by
  cases value with
  | none => rfl
  | some a => simp [node, Node.part, Doc.optional, dot, hf a]

theorem SchemaName.docAll_operations (s : SchemaName) : docAll s.operations = s.doc :=
  docAll_qualified (fun _ => rfl) s.catalog s.schema

theorem QualifiedName.docAll_operations (n : QualifiedName) : docAll n.operations = n.doc :=
  docAll_qualified (fun _ => rfl) n.schema n.name

theorem LocalName.docAll_operations (n : LocalName) : docAll n.operations = n.doc := by
  cases h : n.isModule <;> simp [operations, doc, dot, h]

theorem TableName.docAll_operations (t : TableName) : docAll t.operations = t.doc := by
  cases t <;> simp [operations, doc]

theorem ColumnRef.docAll_operations (c : ColumnRef) : docAll c.operations = c.doc :=
  docAll_qualified (fun _ => rfl) c.table c.name

/-- Binary data have no quote to double, so the quotes written by hand make a literal of them. -/
theorem Value.run_operations (r : Renderer) (v : Value) : r.run v.operations = r.write v.doc := by
  rw [Renderer.run_eq_write]
  cases v with
  | blob bytes =>
    have hquote : '\x27' ∉ (upperHex bytes).toList := (upperHex_unreserved bytes).not_mem rfl
    refine r.write_congr (fun c => ?_) rfl
    simp [operations, doc, Doc.spell_append, String.append_assoc,
      Text.Quoted.literal_eq_of_not_mem hquote]
  | row values => simp [operations, doc, docs_eq_map, Doc.paren, Doc.list]
  | bool b => cases b <;> rfl
  | null | default | int | uint | float | text => simp [operations, doc]

/-- An operator is written as a keyword, with the text that the caller gave. -/
theorem Expr.run_operations (r : Renderer) (e : Expr) : r.run e.operations = r.write e.doc := by
  rw [Renderer.run_eq_write]
  cases e with
  | binary left operator right =>
    refine r.write_congr (fun c => ?_) ?_
    · simp [operations, doc, Doc.spell_append]
    · simp [operations, doc]
  | call function arguments => simp [operations, doc, docs_eq_map, Doc.paren, Doc.list]
  | isNull operand negated => cases negated <;> simp [operations, doc]
  | inList operand values => simp [operations, doc, docs_eq_map]
  | raw | column | value | not | nested | «over» => simp [operations, doc]

theorem Collation.docAll_operations (c : Collation) : docAll c.operations = c.doc := by
  simp [operations, doc]

@[simp] theorem Operation.doc_measure (n : Option UInt64) :
    (measure n).node.doc = Doc.measure n := by
  cases n with
  | none => rfl
  | some n => simp [measure, node, Node.part, Doc.measure, Doc.optional, Doc.paren]

theorem CharacterType.docAll_operations (t : CharacterType) : docAll t.operations = t.doc := by
  have hunit : ∀ u : Option LengthUnit,
      (visit [.leaf .space, .part u .spelled]).node.doc = Doc.after u Doc.keyword := by
    intro u
    cases u <;> rfl
  simp [operations, doc, hunit, Doc.paren]

theorem BinaryType.docAll_operations (t : BinaryType) : docAll t.operations = t.doc := by
  simp [operations, doc]

theorem NumericType.docAll_operations (t : NumericType) : docAll t.operations = t.doc := by
  simp [operations, doc, Doc.paren, Doc.comma]

theorem DateTimeType.docAll_operations (t : DateTimeType) : docAll t.operations = t.doc := by
  simp [operations, doc, Doc.after]

theorem DateTimeField.docAll_operations (f : DateTimeField) : docAll f.operations = f.doc := by
  simp [operations, doc]

theorem IntervalType.docAll_operations (t : IntervalType) : docAll t.operations = t.doc := by
  simp [operations, doc]

theorem RowField.docAll_operations (f : RowField) : docAll f.operations = f.doc := by
  cases f
  simp [operations, doc]

theorem DataType.docAll_operations (t : DataType) : docAll t.operations = t.doc := by
  cases t with
  | array element capacity => cases capacity <;> simp [operations, doc, Node.part, Doc.optional]
  | row fields => simp [operations, doc, RowField.docs_eq_map]
  | _ => simp [operations, doc]

theorem SequenceOption.docAll_operations (o : SequenceOption) : docAll o.operations = o.doc := by
  cases o with
  | maxValue bound => cases bound <;> simp [operations, doc]
  | minValue bound => cases bound <;> simp [operations, doc]
  | cycle wraps => cases wraps <;> simp [operations, doc]
  | startWith | incrementBy => simp [operations, doc]

theorem Identity.docAll_operations (i : Identity) : docAll i.operations = i.doc := by
  cases h : i.options.isEmpty <;> simp [operations, doc, Doc.afterParens, Doc.paren, Doc.list, h]

theorem ClockValue.docAll_operations (v : ClockValue) : docAll v.operations = v.doc := by
  by_cases h : v.kind = .currentDate <;> simp [operations, doc, Doc.optional, Doc.paren, h]

theorem DefaultOption.docAll_operations (o : DefaultOption) : docAll o.operations = o.doc := by
  cases o with
  | emptyArray | emptyMultiset => rfl
  | _ => simp [operations, doc]

theorem DefaultClause.docAll_operations (d : DefaultClause) : docAll d.operations = d.doc := by
  simp [operations, doc]

theorem ColumnValue.docAll_operations (v : ColumnValue) : docAll v.operations = v.doc := by
  cases v <;> simp [operations, doc]

theorem ColumnDef.docAll_operations (c : ColumnDef) : docAll c.operations = c.doc := by
  simp [operations, doc]

theorem ColumnOptions.docAll_operations (c : ColumnOptions) : docAll c.operations = c.doc := by
  cases h : c.isEmpty with
  | true => simp [operations, doc, Doc.invalid, h]
  | false => simp [operations, doc, h]

theorem Characteristics.docAll_operations (c : Characteristics) : docAll c.operations = c.doc := by
  obtain ⟨_ | _, _ | _, _ | _⟩ := c <;>
    simp [operations, doc, keywords, Node.part, Doc.spaced, Doc.keyword]

theorem References.docAll_operations (r : References) : docAll r.operations = r.doc := by
  simp [operations, doc]

@[simp] theorem Operation.docAll_check (condition : Expr) :
    docAll (check condition) = checkDoc condition := by
  simp [check, checkDoc]

theorem ColumnRule.docAll_operations (r : ColumnRule) : docAll r.operations = r.doc := by
  cases r <;> simp [operations, doc]

theorem TableRule.docAll_operations (r : TableRule) : docAll r.operations = r.doc := by
  cases r <;> simp [operations, doc]

/-- Characteristics that say nothing are absent, and their space with them. -/
theorem Constraint.docAll_operations {Rule : Type} {rule : Rule → List Operation}
    {ruleDoc : Rule → Doc} (hrule : ∀ k, docAll (rule k) = ruleDoc k) (c : Constraint Rule) :
    docAll (Constraint.operations rule c) = Constraint.doc ruleDoc c := by
  have hname : (visit [.word "CONSTRAINT", .leaf .space,
      .part c.name (.construct <| .qualifiedName ·), .leaf .space]).node.doc =
        Doc.optional c.name fun n => Doc.text "CONSTRAINT" ++ Doc.space ++ n.doc ++ Doc.space := by
    cases c.name with
    | none => rfl
    | some n => simp [node, Node.part, Doc.optional]
  simp [operations, Constraint.doc, hname, hrule]

theorem Period.docAll_operations (p : Period) : docAll p.operations = p.doc := by
  have hname : p.name.node.doc = p.name.doc := by cases p.name <;> rfl
  simp [operations, doc, hname, Doc.paren, Doc.comma]

theorem LikeOption.docAll_operations (o : LikeOption) : docAll o.operations = o.doc := by
  simp [operations, doc]

theorem Like.docAll_operations (l : Like) : docAll l.operations = l.doc := by
  simp [operations, doc]

theorem TableElement.docAll_operations (e : TableElement) : docAll e.operations = e.doc := by
  cases e <;> simp [operations, doc]

theorem SelfReference.docAll_operations (s : SelfReference) : docAll s.operations = s.doc := by
  simp [operations, doc]

theorem TypedElement.docAll_operations (e : TypedElement) : docAll e.operations = e.doc := by
  cases e <;> simp [operations, doc]

theorem TypedTable.docAll_operations (t : TypedTable) : docAll t.operations = t.doc := by
  cases h : t.elements.isEmpty <;> simp [operations, doc, h]

theorem TableContent.docAll_operations (c : TableContent) : docAll c.operations = c.doc := by
  cases c <;> simp [operations, doc]

theorem CreateTable.docAll_operations (t : CreateTable) : docAll t.operations = t.doc := by
  have hcontent : (after (.construct (.tableContent t.content))).node.doc =
      if t.content.isEmpty then [] else Doc.space ++ t.content.doc := by
    simp [after, node]
  simp [operations, doc, hcontent]

end SqlTree
