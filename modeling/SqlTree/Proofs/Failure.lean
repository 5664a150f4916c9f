import SqlTree.Proofs.Defect
import SqlTree.Proofs.Rendering

/-! Queries fail to render exactly on their defects, with the first one as the error. -/
namespace SqlTree

namespace Doc
variable {α : Type} (sep : Doc) (ds : List Doc)

@[simp] theorem failure?_missing (node child : String) :
    failure? (missing node child) = some (.missing node child) := rfl

@[simp] theorem failure?_invalid (node : String) (problem : Problem) :
    failure? (invalid node problem) = some (.invalid node problem) := rfl

@[simp] theorem failure?_keyword [Spelled α] (a : α) : failure? (keyword a) = none := rfl
@[simp] theorem failure?_int (n : Int64) : failure? (int n) = none := rfl
@[simp] theorem failure?_uint (n : UInt64) : failure? (uint n) = none := rfl
@[simp] theorem failure?_dot : failure? dot = none := rfl
@[simp] theorem failure?_comma : failure? comma = none := rfl

theorem failure?_float (x : Float) : failure? (float x) = floatDefect? x := by
  unfold float Decimal.float floatDefect?
  cases Decimal.Binary64.ofFloat x with
  | nan => rfl
  | infinite negative => rfl
  | finite negative mantissa exponent => cases mantissa <;> rfl

@[simp] theorem failure?_paren (d : Doc) : failure? (paren d) = failure? d := by
  simp [paren]

theorem findSome?_failure?_cons (d : Doc) :
    (d :: ds).findSome? failure? = (failure? d).or (ds.findSome? failure?) := by
  rw [List.findSome?_cons]
  cases failure? d <;> rfl

theorem findSome?_failure?_map {f : α → Doc} {g : α → Option RenderError}
    (h : ∀ a, failure? (f a) = g a) (xs : List α) :
    (xs.map f).findSome? failure? = xs.findSome? g := by
  have hfg : failure? ∘ f = g := funext h
  rw [List.findSome?_map, hfg]

theorem findSome?_failure?_map_none {f : α → Doc} (h : ∀ a, failure? (f a) = none) (xs : List α) :
    (xs.map f).findSome? failure? = none := by
  rw [findSome?_failure?_map h, List.findSome?_eq_none_iff]
  exact fun _ _ => rfl

theorem findSome?_failure?_toList (d? : Option Doc) :
    d?.toList.findSome? failure? = d?.bind failure? := by
  cases d? with
  | none => rfl
  | some d => simp

theorem failure?_flatMap (f : α → Doc) (xs : List α) :
    failure? (xs.flatMap f) = xs.findSome? fun a => failure? (f a) := by
  induction xs with
  | nil => rfl
  | cons a xs ih =>
    rw [List.flatMap_cons, failure?_append, ih, List.findSome?_cons]
    cases failure? (f a) <;> rfl

/-- Separators never fail, so the first error of a list is that of its first failing item. -/
theorem failure?_joined (hs : failure? sep = none) :
    failure? (joined sep ds) = ds.findSome? failure? := by
  cases ds with
  | nil => rfl
  | cons d ds =>
    have hitem : ∀ e : Doc, failure? (sep ++ e) = failure? e := by simp [hs]
    simp only [joined, failure?_append, failure?_flatMap, hitem, findSome?_failure?_cons]

@[simp] theorem failure?_list : failure? (list ds) = ds.findSome? failure? :=
  failure?_joined comma ds rfl

@[simp] theorem failure?_spaced : failure? (spaced ds) = ds.findSome? failure? :=
  failure?_joined space ds rfl

/-- What stands behind an empty list is not written, but its errors would come later anyway. -/
@[simp] theorem failure?_ite_missing (node child : String) (xs : List α) (d : Doc) :
    failure? (if xs.isEmpty then missing node child else d) =
      (absent? node child xs).or (failure? d) := by
  cases xs <;> simp [absent?]

@[simp] theorem failure?_required (node child : String) :
    failure? (required node child ds) =
      (absent? node child ds).or (ds.findSome? failure?) := by
  rw [required, failure?_ite_missing, failure?_list]

@[simp] theorem failure?_requiredPart (node child : String) (v : Option α) (f : α → Doc) :
    failure? (requiredPart node child v f) =
      (absent? node child v.toList).or (v.bind fun a => failure? (f a)) := by
  cases v <;> rfl

@[simp] theorem failure?_optional (v : Option α) (f : α → Doc) :
    failure? (optional v f) = v.bind fun a => failure? (f a) := by
  cases v <;> rfl

@[simp] theorem failure?_after (v : Option α) (f : α → Doc) :
    failure? (after v f) = v.bind fun a => failure? (f a) := by
  simp [after]

@[simp] theorem failure?_clause (k : String) (v : Option α) (f : α → Doc) :
    failure? (clause k v f) = v.bind fun a => failure? (f a) := by
  simp [clause]

/-- The keyword of a list goes with its items, so no error is hidden. -/
theorem failure?_phrase (k : String) :
    (phrase k ds).bind failure? = ds.findSome? failure? := by
  cases ds with
  | nil => rfl
  | cons d ds => simp [phrase]

@[simp] theorem failure?_listClause (k : String) :
    failure? (listClause k ds) = ds.findSome? failure? := by
  rw [listClause, failure?_after, ← failure?_phrase ds k]
  rfl

@[simp] theorem failure?_lines : failure? (lines ds) = ds.findSome? failure? := by
  have hline : ∀ d : Doc, failure? (lines.line d) = failure? d := by simp [lines.line]
  rw [lines_eq_joined, failure?_joined separator _ rfl, findSome?_failure?_map hline]

@[simp] theorem failure?_afterParens : failure? (afterParens ds) = ds.findSome? failure? := by
  cases ds with
  | nil => rfl
  | cons d ds => simp [afterParens]

end Doc

@[simp] theorem absent?_map {α β : Type} (node child : String) (f : α → β) (xs : List α) :
    absent? node child (xs.map f) = absent? node child xs := by
  simp [absent?]

@[simp] theorem SchemaName.failure?_doc (s : SchemaName) : s.doc.failure? = none := by
  simp [doc]

@[simp] theorem QualifiedName.failure?_doc (n : QualifiedName) : n.doc.failure? = none := by
  simp [doc]

@[simp] theorem TableName.failure?_doc (n : TableName) : n.doc.failure? = none := by
  cases n with
  | locally n => cases h : n.isModule <;> simp [doc, LocalName.doc, h]
  | qualified n => simp [doc]

@[simp] theorem ColumnRef.failure?_doc (c : ColumnRef) : c.doc.failure? = none := by
  simp [doc]

@[simp] theorem Alias.failure?_doc (a : Alias) : a.doc.failure? = none := by
  simp [doc]

@[simp] theorem Offset.failure?_doc (o : Offset) : o.doc.failure? = none := by
  simp [doc]

@[simp] theorem Fetch.failure?_doc (f : Fetch) : f.doc.failure? = none := by
  cases h : f.percent <;> simp [doc, h]

@[simp] theorem Lock.failure?_doc (l : Lock) : l.doc.failure? = none := by
  have hwait : ∀ w : LockWait, w.doc.failure? = none := fun w => by
    cases w <;> simp [LockWait.doc]
  simp [doc, hwait]

namespace Value

mutual

theorem failure?_doc : ∀ v : Value, v.doc.failure? = v.defect?
  | .null | .default | .int _ | .uint _ | .text _ => rfl
  | .bool b => by cases b <;> rfl
  | .float x => Doc.failure?_float x
  | .blob _ => rfl
  | .row values => by
    have hvalues := failure?_docs values
    simpa [doc, defect?] using hvalues

theorem failure?_docs : ∀ vs : List Value, (docs vs).findSome? Doc.failure? = defectAll? vs
  | [] => rfl
  | v :: vs => by
    have hfirst := failure?_doc v
    have hrest := failure?_docs vs
    rw [docs, Doc.findSome?_failure?_cons, hfirst, hrest, defectAll?]

end

end Value

namespace Expr

theorem absent?_docs (node child : String) (es : List Expr) :
    absent? node child (docs es) = absent? node child es := by
  cases es <;> rfl

mutual

theorem failure?_doc : ∀ e : Expr, e.doc.failure? = e.defect?
  | .raw _ => rfl
  | .column c => c.failure?_doc
  | .value v => v.failure?_doc
  | .call _ arguments => by
    have harguments := failure?_docs arguments
    simpa [doc, defect?] using harguments
  | .binary left _ right => by
    have hleft := failure?_doc left
    have hright := failure?_doc right
    simp [doc, defect?, hleft, hright]
  | .not operand => by
    have hoperand := failure?_doc operand
    simpa [doc, defect?] using hoperand
  | .isNull operand negated => by
    have hoperand := failure?_doc operand
    cases negated <;> simp [doc, defect?, hoperand]
  | .inList operand values => by
    have hoperand := failure?_doc operand
    have hvalues := failure?_docs values
    simp [doc, defect?, hoperand, hvalues, absent?_docs]
  | .nested inner => by
    have hinner := failure?_doc inner
    simpa [doc, defect?] using hinner
  | .over operand _ => by
    have hoperand := failure?_doc operand
    simpa [doc, defect?] using hoperand

theorem failure?_docs : ∀ es : List Expr, (docs es).findSome? Doc.failure? = defectAll? es
  | [] => rfl
  | e :: es => by
    have hfirst := failure?_doc e
    have hrest := failure?_docs es
    rw [docs, Doc.findSome?_failure?_cons, hfirst, hrest, defectAll?]

end

end Expr

theorem SelectItem.failure?_doc (i : SelectItem) : i.doc.failure? = i.defect? := by
  cases i with
  | all => rfl
  | allOf table => simp [doc, defect?]
  | expr e label => simp [doc, defect?, e.failure?_doc]

theorem TableSample.failure?_doc (s : TableSample) : s.doc.failure? = s.defect? := by
  simp [doc, defect?, Expr.failure?_doc]

theorem NamedTable.failure?_doc (t : NamedTable) : t.doc.failure? = t.defect? := by
  cases h : t.only <;> simp [doc, defect?, h, TableSample.failure?_doc]

theorem JoinSpec.failure?_doc (s : JoinSpec) : s.doc.failure? = s.defect? := by
  cases s with
  | on condition => simp [doc, defect?, condition.failure?_doc]
  | «using» columns =>
    have hnames := Doc.findSome?_failure?_map_none Doc.failure?_ident columns
    simp [doc, defect?, hnames]

theorem SortKey.failure?_doc (k : SortKey) : k.doc.failure? = k.defect? := by
  simp [doc, defect?, k.expr.failure?_doc]

namespace GroupingElement

theorem absent?_docs (node child : String) (es : List GroupingElement) :
    absent? node child (docs es) = absent? node child es := by
  cases es <;> rfl

mutual

theorem failure?_doc : ∀ e : GroupingElement, e.doc.failure? = e.defect?
  | .columns [] => rfl
  | .columns [c] => c.failure?_doc
  | .columns (c :: c' :: cs) => by
    have hcolumns := Doc.findSome?_failure?_map_none ColumnRef.failure?_doc (c :: c' :: cs)
    rw [doc, columnsDoc, Doc.failure?_paren, Doc.failure?_required, hcolumns, absent?_map,
      Option.or_none, defect?]
    simp
  | .rollup cs => by
    have hcolumns := Doc.findSome?_failure?_map_none ColumnRef.failure?_doc cs
    simp [doc, defect?, hcolumns]
  | .cube cs => by
    have hcolumns := Doc.findSome?_failure?_map_none ColumnRef.failure?_doc cs
    simp [doc, defect?, hcolumns]
  | .sets elements => by
    have helements := failure?_docs elements
    simp [doc, defect?, helements, absent?_docs]
  | .empty => rfl

theorem failure?_docs :
    ∀ es : List GroupingElement, (docs es).findSome? Doc.failure? = defectAll? es
  | [] => rfl
  | e :: es => by
    have hfirst := failure?_doc e
    have hrest := failure?_docs es
    rw [docs, Doc.findSome?_failure?_cons, hfirst, hrest, defectAll?]

end

end GroupingElement

theorem GroupBy.failure?_doc (g : GroupBy) : g.doc.failure? = g.defect? := by
  have helements := GroupingElement.failure?_docs g.elements
  simp [doc, defect?, helements, GroupingElement.absent?_docs]

theorem FrameBound.failure?_doc (b : FrameBound) : b.doc.failure? = b.defect? := by
  cases b <;> simp [doc, defect?, Expr.failure?_doc]

/-- The rules come before the bounds, which are not written when a rule is broken. -/
theorem WindowFrame.failure?_doc (f : WindowFrame) : f.doc.failure? = f.defect? := by
  obtain ⟨units, start, stop, exclusion⟩ := f
  have hbound := FrameBound.failure?_doc
  cases stop with
  | none => cases start <;> simp [doc, problem?, boundsDoc, defect?, hbound]
  | some stop =>
    cases stop <;> cases start <;> simp [doc, problem?, boundsDoc, defect?, hbound]

theorem WindowSpec.failure?_doc (w : WindowSpec) : w.doc.failure? = w.defect? := by
  have hpartition := Doc.findSome?_failure?_map_none ColumnRef.failure?_doc w.partitionBy
  have horder := Doc.findSome?_failure?_map SortKey.failure?_doc w.orderBy
  have hframe : ((w.frame.map (·.doc)).bind Doc.failure?) = w.frame.bind (·.defect?) := by
    cases w.frame with
    | none => rfl
    | some f => exact f.failure?_doc
  have hexisting : (w.existing.map Doc.ident).bind Doc.failure? = none := by
    cases w.existing <;> rfl
  simp only [doc, parts, defect?, Doc.failure?_spaced, List.findSome?_append,
    Doc.findSome?_failure?_toList, Doc.failure?_phrase, hexisting, hpartition, horder, hframe,
    Option.none_or]

theorem WindowDef.failure?_doc (w : WindowDef) : w.doc.failure? = w.defect? := by
  simp [doc, defect?, w.spec.failure?_doc]

mutual

theorem TableRef.failure?_doc : ∀ t : TableRef, t.doc.failure? = t.defect?
  | .table t => t.failure?_doc
  | .derived query label => by
    have hquery := query.failure?_doc
    simp [TableRef.doc, TableRef.defect?, hquery]
  | .nested inner _ => by
    have hinner := inner.failure?_doc
    simp [TableRef.doc, TableRef.defect?, hinner]
  | .cross left right => by
    have hleft := left.failure?_doc
    have hright := right.failure?_doc
    simp [TableRef.doc, TableRef.defect?, hleft, hright]
  | .qualified left kind right spec => by
    have hleft := left.failure?_doc
    have hright := right.failure?_doc
    have hspec := spec.failure?_doc
    simp [TableRef.doc, TableRef.defect?, JoinKind.joinDoc, hleft, hright, hspec]
  | .natural left kind right => by
    have hleft := left.failure?_doc
    have hright := right.failure?_doc
    simp [TableRef.doc, TableRef.defect?, JoinKind.joinDoc, hleft, hright]

theorem TableRef.failure?_docs :
    ∀ ts : List TableRef, (TableRef.docs ts).findSome? Doc.failure? = TableRef.defectAll? ts
  | [] => rfl
  | t :: ts => by
    have hfirst := t.failure?_doc
    have hrest := TableRef.failure?_docs ts
    rw [TableRef.docs, Doc.findSome?_failure?_cons, hfirst, hrest, TableRef.defectAll?]

theorem Query.failure?_doc : ∀ q : Query, q.doc.failure? = q.defect?
  | { quantifier, items, tables, condition, groupBy, having, windows, orderBy, limit, offset,
      fetch, lock } => by
    have hitems := Doc.findSome?_failure?_map SelectItem.failure?_doc items
    have htables := TableRef.failure?_docs tables
    have hwindows := Doc.findSome?_failure?_map WindowDef.failure?_doc windows
    have horder := Doc.findSome?_failure?_map SortKey.failure?_doc orderBy
    simp [Query.doc, Query.defect?, Option.or_assoc, hitems, htables, hwindows, horder,
      Expr.failure?_doc, GroupBy.failure?_doc]

end

/-- A query has no text exactly if it has a defect, and the error names the first defect. -/
theorem Query.render_error_iff_defect (q : Query) (c : Setting) (e : RenderError) :
    q.doc.render c = .error e ↔ q.defect? = some e := by
  rw [Doc.render_eq_error_iff, q.failure?_doc]

end SqlTree
