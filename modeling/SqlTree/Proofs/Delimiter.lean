import SqlTree.Node
import SqlTree.Proofs.Outside
import SqlTree.Proofs.Part.Construct

/-! Brackets. Those that stand outside of strings and quoted names close each other, and between the
two brackets around a part stands the text of that part. -/
namespace SqlTree
open Doc

inductive Delimiter where
  | round | square
  deriving DecidableEq

namespace Delimiter

def opening : Delimiter → String
  | round => "("
  | square => "["

def closing : Delimiter → String
  | round => ")"
  | square => "]"

end Delimiter

/-- What a construct may put between brackets. -/
inductive Content where
  | part (m : Construct)
  | list (ms : List Construct)
  /-- Items of which each has an indented line of its own. -/
  | lines (ms : List Construct)
  | names (is : List Ident)
  | count (n : Option UInt64)

namespace Content

/-- The content as a tree that can be written without the brackets. -/
def node : Content → Node
  | part m => .construct m
  | list ms => .list (ms.map .construct)
  | lines ms =>
    if ms.isEmpty then .absent
    else .sequence [.leaf (text "\n" ++ text "\t"),
      .joined (ms.map .construct) (.leaf (separator ++ text "\n" ++ text "\t")), .leaf (text "\n")]
  | names is => .list (is.map fun i => .leaf (ident i))
  | count n => .optional (n.map fun n => .leaf (uint n))

def exprs (es : List Expr) : Content := list (es.map .expr)

end Content

/-- Where constructs write brackets of their own, and what they put between them. Lengths and
precisions of types, which are no parts, are left out. -/
inductive Construct.Encloses : Construct → Delimiter → Content → Prop where
  | derivedTable (q : Query) (a : Option Alias) :
      Encloses (.tableRef (.derived q a)) .round (.part (.query q))
  | nestedTable (t : TableRef) (a : Option Alias) :
      Encloses (.tableRef (.nested t a)) .round (.part (.tableRef t))
  | nestedExpr (e : Expr) : Encloses (.expr (.nested e)) .round (.part (.expr e))
  | inList (e : Expr) (es : List Expr) : Encloses (.expr (.inList e es)) .round (.exprs es)
  | arguments (function : String) (es : List Expr) :
      Encloses (.expr (.call function es)) .round (.exprs es)
  | row (vs : List Value) : Encloses (.value (.row vs)) .round (.list (vs.map .value))
  | columnCheck {c : ColumnConstraint} {e : Expr} (h : c.rule = .check e) :
      Encloses (.columnConstraint c) .round (.part (.expr e))
  | tableCheck {c : TableConstraint} {e : Expr} (h : c.rule = .check e) :
      Encloses (.tableConstraint c) .round (.part (.expr e))
  | generated (e : Expr) : Encloses (.columnValue (.generated e)) .round (.part (.expr e))
  | valuesRow {rows : List (List Expr)} {row : List Expr} (h : row ∈ rows) :
      Encloses (.insertSource (.values rows)) .round (.exprs row)
  | mergeRow {i : MergeInsert} {row : List Expr} (h : i.values = some row) :
      Encloses (.mergeInsert i) .round (.exprs row)
  | window (w : WindowDef) : Encloses (.windowDef w) .round (.part (.windowSpec w.spec))
  | rowType (fs : List RowField) :
      Encloses (.dataType (.row fs)) .round (.list (fs.map .rowField))
  | capacity (t : DataType) (n : Option UInt64) :
      Encloses (.dataType (.array t n)) .square (.count n)
  | elements (es : List TableElement) :
      Encloses (.tableContent (.elements es)) .round (.lines (es.map .tableElement))
  | typedElements {t : TypedTable} (h : t.elements ≠ []) :
      Encloses (.typedTable t) .round (.lines (t.elements.map .typedElement))
  | percent (s : TableSample) : Encloses (.tableSample s) .round (.part (.expr s.percent))
  | seed {s : TableSample} {e : Expr} (h : s.seed = some e) :
      Encloses (.tableSample s) .round (.part (.expr e))
  | groupingSet {cs : List ColumnRef} (h : cs.length ≠ 1) :
      Encloses (.groupingElement (.columns cs)) .round (.list (cs.map .columnRef))
  | rollup (cs : List ColumnRef) :
      Encloses (.groupingElement (.rollup cs)) .round (.list (cs.map .columnRef))
  | cube (cs : List ColumnRef) :
      Encloses (.groupingElement (.cube cs)) .round (.list (cs.map .columnRef))
  | groupingSets (es : List GroupingElement) :
      Encloses (.groupingElement (.sets es)) .round (.list (es.map .groupingElement))
  | sequenceOptions {i : Identity} (h : i.options ≠ []) :
      Encloses (.identity i) .round (.list (i.options.map .sequenceOption))
  | aliasColumns {a : Alias} (h : a.columns ≠ []) :
      Encloses (.alias a) .round (.names a.columns)
  | joinColumns (is : List Ident) : Encloses (.joinSpec (.using is)) .round (.names is)
  | referencesColumns {r : References} (h : r.columns ≠ []) :
      Encloses (.references r) .round (.names r.columns)
  | uniqueColumns {c : TableConstraint} {kind : UniqueKind} {is : List Ident}
      (h : c.rule = .unique kind is) : Encloses (.tableConstraint c) .round (.names is)
  | keyColumns {c : TableConstraint} {is : List Ident} {r : References}
      (h : c.rule = .foreignKey is r) : Encloses (.tableConstraint c) .round (.names is)
  | insertColumns {i : Insert} (h : i.columns ≠ []) :
      Encloses (.insert i) .round (.names i.columns)
  | mergeColumns {i : MergeInsert} (h : i.columns ≠ []) :
      Encloses (.mergeInsert i) .round (.names i.columns)
  | assignedColumns (is : List Ident) (e : Expr) :
      Encloses (.assignment (.row is e)) .round (.names is)
  | periodColumns (p : Period) : Encloses (.period p) .round (.names [p.start, p.stop])

namespace Node

theorem docs_map {α : Type} {f : α → Node} {g : α → Doc} (h : ∀ a, (f a).doc = g a)
    (xs : List α) : docs (xs.map f) = xs.map g := by
  induction xs with
  | nil => rfl
  | cons x xs ih => simp [docs, h, ih]

private theorem docs_constructs {α : Type} (g : α → Construct) (xs : List α) :
    docs ((xs.map g).map .construct) = xs.map fun x => (g x).doc := by
  rw [List.map_map]
  exact docs_map (fun _ => rfl) xs

end Node

namespace Content

section
variable {α : Type} (g : α → Construct) (xs : List α)

private theorem doc_list : (list (xs.map g)).node.doc = Doc.list (xs.map fun x => (g x).doc) :=
  congrArg Doc.list (Node.docs_constructs g xs)

private theorem doc_lines (h : xs ≠ []) :
    (lines (xs.map g)).node.doc = text "\n" ++ text "\t"
      ++ joined (separator ++ text "\n" ++ text "\t") (xs.map fun x => (g x).doc)
      ++ text "\n" := by
  rw [node, if_neg (by simpa using h)]
  simp only [Node.doc, Node.docs, Node.docs_constructs, List.flatten_cons, List.flatten_nil,
    List.append_nil, List.append_assoc]

/-- Lines are what stands between the brackets of a block. -/
private theorem paren_doc_lines :
    paren (lines (xs.map g)).node.doc = block (xs.map fun x => (g x).doc) := by
  cases xs with
  | nil => rfl
  | cons x xs =>
    rw [doc_lines g (x :: xs) (List.cons_ne_nil x xs)]
    simp [block, Doc.lines, Doc.lines.line, joined]

end

private theorem doc_exprs (es : List Expr) : (exprs es).node.doc = Doc.list (Expr.docs es) := by
  rw [Expr.docs_eq_map]
  exact doc_list .expr es

private theorem doc_names (is : List Ident) : (names is).node.doc = Doc.list (is.map ident) :=
  congrArg Doc.list (Node.docs_map (fun _ => rfl) is)

private theorem doc_count (n : Option UInt64) : (count n).node.doc = Doc.optional n uint := by
  cases n <;> rfl

end Content

namespace Doc
variable {d e f : Doc} {ds : List Doc}

/-- Where nothing fails, no list that is required is empty. -/
private theorem infix_paren_list {node child : String} (h : paren (required node child ds) <:+: d)
    (hf : d.failure? = none) : paren (list ds) <:+: d := by
  cases ds with
  | nil => cases failure?_mono h hf
  | cons e ds => exact h

private theorem infix_left (h : d <:+: e) : d <:+: e ++ f :=
  List.infix_append_of_infix_left h

private theorem infix_right (h : d <:+: f) : d <:+: e ++ f :=
  List.infix_append_of_infix_right h

private theorem infix_end : d <:+: e ++ d :=
  (List.suffix_append e d).isInfix

private theorem infix_flatMap {f : Doc → Doc} (hf : d <:+: f d) (h : d ∈ ds) :
    d <:+: ds.flatMap f :=
  hf.trans (List.infix_of_mem_flatten (List.mem_map_of_mem h))

private theorem infix_joined {sep : Doc} (h : d ∈ ds) : d <:+: joined sep ds := by
  cases h with
  | head => exact infix_left List.infix_rfl
  | tail _ h => exact infix_right (infix_flatMap infix_end h)

private theorem infix_lines (h : d ∈ ds) : d <:+: lines ds := by
  have hline : d <:+: lines.line d := infix_end
  rw [lines_eq_joined]
  exact hline.trans (infix_joined (List.mem_map_of_mem h))

end Doc

private theorem Content.infix_round {x : Content} {d e : Doc} (hx : x.node.doc = e)
    (h : paren e <:+: d) :
    text Delimiter.round.opening ++ x.node.doc ++ text Delimiter.round.closing <:+: d :=
  hx ▸ h

private theorem infix_checkDoc (e : Expr) : paren e.doc <:+: checkDoc e :=
  infix_end

private theorem Constraint.infix_rule {Rule : Type} {doc : Rule → Doc} (c : Constraint Rule) :
    doc c.rule <:+: c.doc doc :=
  infix_left infix_end

private theorem infix_insertColumns {is : List Ident} (overriding : Option Overriding)
    (h : is ≠ []) : paren (list (is.map ident)) <:+: insertColumns is overriding := by
  cases is with
  | nil => exact absurd rfl h
  | cons i is => exact infix_left (infix_left List.infix_rfl)

private theorem infix_afterParens {α : Type} {f : α → Doc} {xs : List α} (h : xs ≠ []) :
    paren (list (xs.map f)) <:+: afterParens (xs.map f) := by
  cases xs with
  | nil => exact absurd rfl h
  | cons x xs => exact infix_end

private theorem InsertSource.infix_valuesRow {rows : List (List Expr)} {row : List Expr}
    (h : row ∈ rows) : valuesRow row <:+: (InsertSource.values rows).doc := by
  match rows with
  | [] => cases h
  | [r] =>
    obtain rfl := List.mem_singleton.mp h
    exact infix_end
  | r :: next :: rows =>
    have hline := infix_lines (List.mem_map_of_mem (f := (text "ROW" ++ valuesRow ·)) h)
    exact infix_right (infix_end.trans hline)

theorem MergeInsert.infix_doc {i : MergeInsert} {row : List Expr} (h : i.values = some row)
    (hf : i.doc.failure? = none) :
    insertColumns i.columns i.overriding <:+: i.doc ∧ valuesRow row <:+: i.doc := by
  unfold MergeInsert.doc at hf ⊢
  rw [h] at hf ⊢
  split at hf
  · cases hf
  · rename_i hrow
    cases hrow
  · rename_i hrow
    cases hrow
    exact ⟨infix_left (infix_left (infix_left infix_end)), infix_end⟩

/-- A column list asks for values. -/
private theorem MergeInsert.exists_values {i : MergeInsert} (h : i.columns ≠ [])
    (hf : i.doc.failure? = none) : ∃ row, i.values = some row := by
  cases hvalues : i.values with
  | some row => exact ⟨row, rfl⟩
  | none =>
    simp only [MergeInsert.doc, problem?, List.isEmpty_iff, h, hvalues, if_false] at hf
    cases hf

private theorem Insert.infix_insertColumns {i : Insert} (hf : i.doc.failure? = none) :
    insertColumns i.columns i.overriding <:+: i.doc := by
  unfold Insert.doc at hf ⊢
  split at hf
  · cases hf
  · exact infix_left infix_end

private theorem GroupingElement.infix_columnsDoc {cs : List ColumnRef} (h : cs.length ≠ 1) :
    paren (required "grouping set" "column" (cs.map (·.doc))) <:+: columnsDoc cs := by
  match cs with
  | [] => exact List.infix_rfl
  | [c] => exact absurd rfl h
  | c :: b :: cs => exact List.infix_rfl

open Content in
/-- The brackets with the content between them stand in what the construct writes. -/
theorem Construct.Encloses.infix_doc {m : Construct} {δ : Delimiter} {x : Content}
    (h : m.Encloses δ x) (hf : m.doc.failure? = none) :
    text δ.opening ++ x.node.doc ++ text δ.closing <:+: m.doc := by
  cases h with
  | derivedTable q a => exact infix_left (infix_left List.infix_rfl)
  | nestedTable t a => exact infix_left List.infix_rfl
  | nestedExpr e => exact List.infix_rfl
  | inList e es => exact infix_round (doc_exprs es) (infix_paren_list infix_end hf)
  | arguments function es => exact infix_round (doc_exprs es) infix_end
  | row vs =>
    have hvalues : (Content.list (vs.map .value)).node.doc = Doc.list (Value.docs vs) := by
      rw [Value.docs_eq_map]
      exact doc_list .value vs
    exact infix_round hvalues infix_end
  | @columnCheck c e h =>
    have hrule : ColumnRule.doc c.rule <:+: (Construct.columnConstraint c).doc := c.infix_rule
    rw [h] at hrule
    exact (infix_checkDoc e).trans hrule
  | @tableCheck c e h =>
    have hrule : TableRule.doc c.rule <:+: (Construct.tableConstraint c).doc := c.infix_rule
    rw [h] at hrule
    exact (infix_checkDoc e).trans hrule
  | generated e => exact infix_end
  | @valuesRow rows row h =>
    exact infix_round (doc_exprs row) (infix_paren_list (InsertSource.infix_valuesRow h) hf)
  | @mergeRow i row h =>
    exact infix_round (doc_exprs row) (infix_paren_list (MergeInsert.infix_doc h hf).2 hf)
  | window w => exact infix_end
  | rowType fs =>
    have hfields : (Content.list (fs.map .rowField)).node.doc = Doc.list (RowField.docs fs) := by
      rw [RowField.docs_eq_map]
      exact doc_list .rowField fs
    exact infix_round hfields (infix_paren_list infix_end hf)
  | capacity t n =>
    rw [doc_count]
    exact infix_end
  | elements es =>
    change paren (lines (es.map .tableElement)).node.doc <:+: block (es.map (·.doc))
    rw [paren_doc_lines]
    exact List.infix_rfl
  | @typedElements t h =>
    have hblock := paren_doc_lines .typedElement t.elements
    have hdoc : (Construct.typedTable t).doc =
        text "OF" ++ space ++ t.type.doc ++ (space ++ block (t.elements.map (·.doc))) := by
      simp [Construct.doc, TypedTable.doc, h]
    rw [hdoc]
    exact hblock ▸ infix_right infix_end
  | percent s => exact infix_left infix_end
  | @seed s e h =>
    have hseed : paren e.doc <:+: Doc.clause "REPEATABLE" s.seed (Doc.paren ·.doc) := by
      rw [h]
      exact infix_right infix_end
    exact infix_right hseed
  | @groupingSet cs h =>
    have hcolumns := GroupingElement.infix_columnsDoc h
    exact infix_round (doc_list .columnRef cs) (infix_paren_list hcolumns hf)
  | rollup cs => exact infix_round (doc_list .columnRef cs) (infix_paren_list infix_end hf)
  | cube cs => exact infix_round (doc_list .columnRef cs) (infix_paren_list infix_end hf)
  | groupingSets es =>
    have helements : (Content.list (es.map .groupingElement)).node.doc =
        Doc.list (GroupingElement.docs es) := by
      rw [GroupingElement.docs_eq_map]
      exact doc_list .groupingElement es
    exact infix_round helements (infix_paren_list infix_end hf)
  | @sequenceOptions i h =>
    exact infix_round (doc_list .sequenceOption _) (infix_right (infix_afterParens h))
  | @aliasColumns a h =>
    exact infix_round (doc_names _) (infix_right (infix_afterParens h))
  | joinColumns is => exact infix_round (doc_names is) (infix_paren_list infix_end hf)
  | @referencesColumns r h =>
    have hcolumns := infix_afterParens (f := ident) h
    exact infix_round (doc_names _) (infix_left (infix_left (infix_left (infix_right hcolumns))))
  | @uniqueColumns c kind is h =>
    have hrule : TableRule.doc c.rule <:+: (Construct.tableConstraint c).doc := c.infix_rule
    rw [h] at hrule
    exact infix_round (doc_names is) (infix_paren_list (infix_end.trans hrule) hf)
  | @keyColumns c is r h =>
    have hrule : TableRule.doc c.rule <:+: (Construct.tableConstraint c).doc := c.infix_rule
    rw [h] at hrule
    have hcolumns := (infix_left (infix_left infix_end)).trans hrule
    exact infix_round (doc_names is) (infix_paren_list hcolumns hf)
  | @insertColumns i h =>
    have hcolumns := (infix_insertColumns i.overriding h).trans (Insert.infix_insertColumns hf)
    exact infix_round (doc_names _) hcolumns
  | @mergeColumns i h =>
    obtain ⟨row, hrow⟩ := MergeInsert.exists_values h hf
    have hcolumns := (infix_insertColumns i.overriding h).trans (MergeInsert.infix_doc hrow hf).1
    exact infix_round (doc_names _) hcolumns
  | assignedColumns is e =>
    have hcolumns : paren (required "assignment" "column" (is.map ident)) <:+:
        (Construct.assignment (.row is e)).doc :=
      infix_left (infix_left (infix_left (infix_left List.infix_rfl)))
    exact infix_round (doc_names is) (infix_paren_list hcolumns hf)
  | periodColumns p => exact infix_round (doc_names _) infix_end

private theorem Dialect.presets_unbracketed :
    ∀ c ∈ Config.default :: Dialect.presets.map (·.config), c.Unbracketed := by
  intro c hc
  obtain ⟨hspace, hseparator⟩ := Dialect.presets_marks c hc
  rw [Config.Unbracketed, hspace, hseparator]
  exact ⟨rfl, rfl⟩

section Nested
variable {c : Setting}

theorem Construct.nested (hc : c.Unbracketed) {n : Construct}
    (hv : ∀ s, .verbatim s ∈ n.doc → Nested s.toList) : Nested (n.doc.code c) := by
  obtain hphrase | ⟨hdoc, -⟩ := n.phrase
  · exact hphrase.nested hc hv
  · rw [hdoc]
    exact .nil

private theorem Doc.nested_flatMap {f : Doc → Doc} {ds : List Doc}
    (h : ∀ d ∈ ds, Nested ((f d).code c)) : Nested (Doc.code c (ds.flatMap f)) := by
  induction ds with
  | nil => exact .nil
  | cons d ds ih =>
    rw [List.flatMap_cons, code_append]
    exact (h d List.mem_cons_self).append (ih fun e he => h e (List.mem_cons_of_mem d he))

private theorem Doc.nested_joined {sep : Doc} {ds : List Doc} (hsep : Nested (sep.code c))
    (h : ∀ d ∈ ds, Nested (d.code c)) : Nested ((joined sep ds).code c) := by
  cases ds with
  | nil => exact .nil
  | cons d ds =>
    have hrest : Nested (Doc.code c (ds.flatMap (sep ++ ·))) := nested_flatMap fun e he => by
      rw [code_append]
      exact hsep.append (h e (List.mem_cons_of_mem d he))
    rw [joined, code_append]
    exact (h d List.mem_cons_self).append hrest

private theorem Construct.nested_joined (hc : c.Unbracketed) {sep : Doc} (hsep : Divider sep)
    {ms : List Construct}
    (hv : ∀ s, .verbatim s ∈ joined sep (ms.map (·.doc)) → Nested s.toList) :
    Nested ((joined sep (ms.map (·.doc))).code c) := by
  refine Doc.nested_joined (hsep.nested hc) fun d hd => ?_
  obtain ⟨m, -, rfl⟩ := List.mem_map.mp hd
  exact m.nested hc fun s hs => hv s ((infix_joined hd).subset hs)

/-- What stands between two brackets is nested on its own. -/
theorem Content.nested (hc : c.Unbracketed) {x : Content}
    (hv : ∀ s, .verbatim s ∈ x.node.doc → Nested s.toList) : Nested (x.node.doc.code c) := by
  cases x with
  | part m => exact m.nested hc hv
  | list ms =>
    have hdoc := doc_list id ms
    rw [List.map_id] at hdoc
    rw [hdoc] at hv ⊢
    exact Construct.nested_joined hc .comma hv
  | lines ms =>
    cases ms with
    | nil => exact .nil
    | cons m ms =>
      have hdoc := doc_lines id (m :: ms) (List.cons_ne_nil m ms)
      rw [List.map_id] at hdoc
      rw [hdoc] at hv ⊢
      have hverbatim : ∀ s, .verbatim s ∈ joined (separator ++ text "\n" ++ text "\t")
          ((m :: ms).map (·.doc)) → Nested s.toList :=
        fun s hs => hv s (List.mem_append_left _ (List.mem_append_right _ hs))
      have hitems := Construct.nested_joined hc .commaLine hverbatim
      rw [code_append, code_append]
      exact .append (.append (Divider.line.nested hc) hitems) (nested_text rfl)
  | names is =>
    rw [doc_names]
    refine Doc.nested_joined (Divider.comma.nested hc) fun d hd => ?_
    obtain ⟨i, -, rfl⟩ := List.mem_map.mp hd
    exact i.nested_code c
  | count n =>
    rw [doc_count]
    cases n with
    | none => exact .nil
    | some n => exact nested_text (Decimal.repr_word _).nested

end Nested

/-- Balanced brackets. When the texts that are taken as they are hold no quote and are balanced
themselves, all brackets outside of strings and quoted names are balanced, and between the two
brackets that a construct inside writes around its content stands the text of this content. -/
theorem Construct.render_balanced {c : Setting} {n : Construct} {sql : String}
    (hc : c.toConfig ∈ Config.default :: Dialect.presets.map (·.config))
    (hv : ∀ s, .verbatim s ∈ n.atoms →
      '\x27' ∉ s.toList ∧ c.quote ∉ s.toList ∧ Nested s.toList)
    (h : n.doc.render c = .ok sql) :
    Nested (outside c.quote none sql.toList) ∧
    ∀ (m : Construct) (δ : Delimiter) (x : Content), m.Occurs n → m.Encloses δ x →
      ∃ before content behind : String,
        sql = before ++ δ.opening ++ content ++ δ.closing ++ behind ∧
        x.node.doc.render c = .ok content ∧
        Nested (outside c.quote none content.toList) ∧
        outside c.quote none sql.toList =
          outside c.quote none before.toList ++ δ.opening.toList
            ++ outside c.quote none content.toList ++ δ.closing.toList
            ++ outside c.quote none behind.toList := by
  obtain ⟨hf, rfl⟩ := render_eq_ok_iff.mp h
  have hclear : c.Clear := Dialect.presets_clear c hc
  have hmarks : c.Unbracketed := Dialect.presets_unbracketed c hc
  have hverbatim : ∀ s, .verbatim s ∈ n.doc →
      '\x27' ∉ s.toList ∧ c.quote ∉ s.toList ∧ Nested s.toList :=
    fun s hs => hv s (n.pieces _ hs)
  have hplain : ∀ p ∈ n.doc, p.IsPlain c.quote := by
    intro p hp
    cases p with
    | text s => exact hclear.plain (n.pieces _ hp : Sign s).unreserved
    | verbatim s => exact ⟨(hverbatim s hp).1, (hverbatim s hp).2.1⟩
    | _ => trivial
  have hcode {d : Doc} (hd : d ⊆ n.doc) : outside c.quote none (d.spell c).toList = d.code c :=
    outside_spell hclear fun p hp => hplain p (hd hp)
  refine ⟨?_, ?_⟩
  · rw [hcode (List.Subset.refl _)]
    exact n.nested hmarks fun s hs => (hverbatim s hs).2.2
  · intro m δ x hm hx
    have hpart := hm.doc_infix hf
    obtain ⟨before, behind, hdoc⟩ := (hx.infix_doc (failure?_mono hpart hf)).trans hpart
    have hbefore : before ⊆ n.doc := fun p hp => by simp [← hdoc, hp]
    have hcontent : x.node.doc ⊆ n.doc := fun p hp => by simp [← hdoc, hp]
    have hbehind : behind ⊆ n.doc := fun p hp => by simp [← hdoc, hp]
    refine ⟨spell c before, spell c x.node.doc, spell c behind, ?_, ?_, ?_, ?_⟩
    · simp [← hdoc, spell_append, String.append_assoc]
    · have hfx : x.node.doc.failure? = none :=
        failure?_mono ⟨before ++ text δ.opening, text δ.closing ++ behind, by simp [← hdoc]⟩ hf
      exact render_eq_ok_iff.mpr ⟨hfx, rfl⟩
    · rw [hcode hcontent]
      exact x.nested hmarks fun s hs => (hverbatim s (hcontent hs)).2.2
    · rw [hcode (List.Subset.refl _), hcode hbefore, hcode hcontent, hcode hbehind, ← hdoc]
      simp

/-- Brackets in a name and in a string count for nothing. -/
theorem Construct.render_balanced_quotes :
    (Construct.expr (.nested (.inList (.column { name := ⟨"a("⟩ })
        [.value (.text ")"), .raw "f(x)"]))).doc.render Dialect.generic.config =
      .ok "(\"a(\" IN (')', f(x)))" ∧
    Nested (outside '"' none "(\"a(\" IN (')', f(x)))".toList) ∧
    ∃ before content behind : String,
      "(\"a(\" IN (')', f(x)))" = before ++ "(" ++ content ++ ")" ++ behind ∧
      (Content.exprs [.value (.text ")"), .raw "f(x)"]).node.doc.render Dialect.generic.config =
        .ok content := by
  have hrender : (Construct.expr (.nested (.inList (.column { name := ⟨"a("⟩ })
      [.value (.text ")"), .raw "f(x)"]))).doc.render Dialect.generic.config =
        .ok "(\"a(\" IN (')', f(x)))" := by rfl
  have hverbatim : ∀ s, .verbatim s ∈ (Construct.expr (.nested (.inList
      (.column { name := ⟨"a("⟩ }) [.value (.text ")"), .raw "f(x)"]))).atoms →
        '\x27' ∉ s.toList ∧ Dialect.generic.config.quote ∉ s.toList ∧ Nested s.toList := by
    intro s hs
    have hraw : s = "f(x)" := by
      simpa [Construct.atoms, Expr.atoms, Expr.atomsAll, Value.atoms, ColumnRef.atoms] using hs
    subst hraw
    decide
  have hall := Construct.render_balanced (by decide) hverbatim hrender
  have hlist := hall.2 _ _ _ (.inside List.mem_cons_self .here) (.inList _ _)
  obtain ⟨before, content, behind, hsql, hcontent, -⟩ := hlist
  exact ⟨hrender, hall.1, before, content, behind, hsql, hcontent⟩

/-- A list on its own is written on one line, and the elements of a table are not. -/
theorem Construct.render_elements_on_lines :
    (Construct.tableContent (.elements
        [.column { name := ⟨"a"⟩, type := some (.integer .int) },
          .column { name := ⟨"b"⟩, type := some (.integer .int) }])).doc.render .default =
      .ok "(\n\ta INT,\n\tb INT\n)" ∧
    (Node.list
        [.construct (.tableElement (.column { name := ⟨"a"⟩, type := some (.integer .int) })),
          .construct (.tableElement (.column { name := ⟨"b"⟩, type := some (.integer .int) }))]
        ).doc.render .default =
      .ok "a INT, b INT" ∧
    ∀ before behind : String,
      "(\n\ta INT,\n\tb INT\n)" ≠ before ++ "(" ++ "a INT, b INT" ++ ")" ++ behind := by
  refine ⟨by rfl, by rfl, ?_⟩
  intro before behind h
  -- the list has three spaces, the lines have only two
  have hspaces := congrArg (fun s => s.toList.count ' ') h
  have hlines : "(\n\ta INT,\n\tb INT\n)".toList.count ' ' = 2 := by decide
  have hlist : "a INT, b INT".toList.count ' ' = 3 := by decide
  simp only [String.toList_append, List.count_append] at hspaces
  omega

end SqlTree
