import Mathlib.Data.List.Forall2
import SqlTree.Proofs.Changes.Table
import SqlTree.Proofs.Failure.Table

/-! Columns of a typed table. What a column keeps when it becomes options is written as before,
behind two more words, and it fails as before. -/
namespace SqlTree
open Changes Doc

/-- If there is a defect, one of the nodes is to blame. -/
def Blames (nodes : List String) (defect? : Option RenderError) : Prop :=
  ∀ e ∈ defect?, e.node ∈ nodes

namespace Blames
variable {nodes : List String} {x y : Option RenderError}

private theorem none : Blames nodes none := by
  rintro e ⟨⟩

private theorem or (hx : Blames nodes x) (hy : Blames nodes y) : Blames nodes (x.or y) := by
  intro e he
  obtain he | ⟨-, he⟩ := Option.or_eq_some_iff.mp he
  · exact hx e he
  · exact hy e he

private theorem bind {α : Type} {f : α → Option RenderError} (h : ∀ a, Blames nodes (f a))
    (v : Option α) : Blames nodes (v.bind f) := by
  cases v with
  | none => exact none
  | some a => exact h a

private theorem findSome? {α : Type} {f : α → Option RenderError} (h : ∀ a, Blames nodes (f a))
    (xs : List α) : Blames nodes (xs.findSome? f) := by
  intro e he
  obtain ⟨a, -, ha⟩ := List.exists_of_findSome?_eq_some he
  exact h a e ha

private theorem absent? {α : Type} {node : String} (h : node ∈ nodes) (child : String)
    (xs : List α) : Blames nodes (absent? node child xs) := by
  intro e he
  cases xs with
  | nil =>
    obtain rfl := Option.some.inj he
    exact h
  | cons x xs => cases he

end Blames

/-- The nodes of expressions that have defects of their own. -/
def exprNodes : List String := ["float", "IN"]

private theorem floatDefect?_blames (x : Float) : Blames exprNodes (floatDefect? x) := by
  intro e he
  unfold floatDefect? at he
  split at he
  · obtain rfl := Option.some.inj he
    exact List.mem_cons_self
  · obtain rfl := Option.some.inj he
    exact List.mem_cons_self
  · cases he

mutual

private theorem Value.blames : ∀ v : Value, Blames exprNodes v.defect?
  | .float x => floatDefect?_blames x
  | .row values => Value.blames_all values
  | .null | .default | .bool _ | .int _ | .uint _ | .text _ | .blob _ => .none

private theorem Value.blames_all : ∀ vs : List Value, Blames exprNodes (Value.defectAll? vs)
  | [] => .none
  | v :: vs => (Value.blames v).or (Value.blames_all vs)

end

mutual

private theorem Expr.blames : ∀ e : Expr, Blames exprNodes e.defect?
  | .value v => v.blames
  | .call _ arguments => Expr.blames_all arguments
  | .binary left _ right => (Expr.blames left).or (Expr.blames right)
  | .not operand => Expr.blames operand
  | .isNull operand _ => Expr.blames operand
  | .inList operand values =>
    (Expr.blames operand).or <|
      (Blames.absent? (by decide) "value" values).or (Expr.blames_all values)
  | .nested inner => Expr.blames inner
  | .over operand _ => Expr.blames operand
  | .raw _ | .column _ => .none

private theorem Expr.blames_all : ∀ es : List Expr, Blames exprNodes (Expr.defectAll? es)
  | [] => .none
  | e :: es => (Expr.blames e).or (Expr.blames_all es)

end

private theorem DefaultClause.blames (d : DefaultClause) : Blames exprNodes d.defect? := by
  obtain ⟨option⟩ := d
  cases option with
  | value v => exact v.blames
  | raw | session | clock | emptyArray | emptyMultiset => exact .none

private theorem ColumnRule.blames (r : ColumnRule) : Blames exprNodes r.defect? := by
  cases r with
  | check condition => exact condition.blames
  | notNull | unique | references => exact .none

namespace Doc
variable {c : Setting} {d e : Doc}

private theorem render_append_of_ok {before : String} (h : d.render c = .ok before) :
    (d ++ e).render c = (e.render c).map (before ++ ·) := by
  rw [render_append, h]
  cases e.render c <;> rfl

private theorem trailing_append (ds es : List Doc) :
    trailing (ds ++ es) = trailing ds ++ trailing es :=
  List.flatMap_append

private theorem after_eq_trailing {α : Type} (v : Option α) (f : α → Doc) :
    after v f = trailing (v.map f).toList := by
  cases v <;> simp [after, optional, trailing]

/-- Parts behind spaces have a text if each of them has one. -/
private theorem exists_texts_of_trailing {ds : List Doc} {text : String}
    (h : (trailing ds).render c = .ok text) :
    ∃ texts, List.Forall₂ (fun d t => d.render c = .ok t) ds texts ∧
      text = String.join (texts.map (c.whitespace.toString ++ ·)) := by
  obtain ⟨hfine, rfl⟩ := render_eq_ok_iff.mp h
  rw [failure?_trailing, List.findSome?_eq_none_iff] at hfine
  refine ⟨ds.map (·.spell c), ?_, ?_⟩
  · rw [List.forall₂_map_right_iff, List.forall₂_same]
    exact fun d hd => render_eq_ok_iff.mpr ⟨hfine d hd, rfl⟩
  · clear h hfine
    induction ds with
    | nil => rfl
    | cons d ds ih =>
      have htrailing : trailing (d :: ds) = space ++ d ++ trailing ds := rfl
      rw [htrailing, spell_append, spell_append, spell_space, ih]
      simp

end Doc

namespace ColumnDef
variable (d : ColumnDef) (c : Setting)

def default? : Option DefaultClause :=
  d.value.bind (·.default?)

/-- The column without its type and its collation, and without any value but a default. -/
def kept : ColumnDef :=
  { d with type := none, value := d.value.filter (·.default?.isSome), collation := none }

/-- What the options say: the default and all constraints, in order. -/
def options : List Doc :=
  (d.default?.map (·.doc)).toList ++ d.constraints.map (·.doc)

private theorem default?_eq_none_iff : d.default? = none ↔ ∀ k, d.value ≠ some (.default k) := by
  unfold default?
  cases d.value with
  | none => simp
  | some v => cases v <;> simp [ColumnValue.default?]

private theorem value_kept : d.kept.value = d.default?.map .default := by
  unfold kept default?
  cases d.value with
  | none => rfl
  | some v => cases v <;> rfl

private theorem doc_kept : d.kept.doc = ident d.name ++ trailing d.options := by
  have hvalue : d.kept.value.map (·.doc) = d.default?.map (·.doc) := by
    rw [value_kept, Option.map_map]
    rfl
  have hdoc : d.kept.doc = ident d.name ++ [] ++ after d.kept.value (·.doc) ++
      trailing (d.constraints.map (·.doc)) ++ [] := rfl
  rw [hdoc, after_eq_trailing, hvalue, options, trailing_append]
  simp

private theorem isEmpty_withOptions :
    d.withOptions.isEmpty = true ↔ d.constraints = [] ∧ d.default? = none := by
  simp [ColumnOptions.isEmpty, withOptions, default?, and_comm]

private theorem doc_withOptions_of_empty (hconstraints : d.constraints = [])
    (hdefault : d.default? = none) :
    d.withOptions.doc = invalid "column options" (.noColumnOptions d.name) := by
  have hempty := d.isEmpty_withOptions.mpr ⟨hconstraints, hdefault⟩
  rw [ColumnOptions.doc, if_pos hempty]
  rfl

private theorem doc_withOptions (h : ¬ (d.constraints = [] ∧ d.default? = none)) :
    d.withOptions.doc =
      ident d.name ++ (space ++ text "WITH OPTIONS") ++ trailing d.options := by
  have hempty : ¬ d.withOptions.isEmpty = true := fun hempty => h (d.isEmpty_withOptions.mp hempty)
  have hdoc : d.withOptions.doc = ident d.name ++ space ++ text "WITH OPTIONS" ++ [] ++
      after d.default? (·.doc) ++ trailing (d.constraints.map (·.doc)) := by
    rw [ColumnOptions.doc, if_neg hempty]
    rfl
  rw [hdoc, after_eq_trailing, options, trailing_append]
  simp

private theorem failure?_options :
    (trailing d.options).failure? =
      (d.default?.bind (·.defect?)).or (d.constraints.findSome? (·.rule.defect?)) := by
  have hconstraints := findSome?_failure?_map ColumnConstraint.failure?_doc d.constraints
  rw [failure?_trailing, options, List.findSome?_append, findSome?_failure?_toList, hconstraints]
  cases d.default? with
  | none => rfl
  | some k => simp [DefaultClause.failure?_doc]

/-- No part of a column has a defect of column options. -/
private theorem node_ne_of_failure?_options {e : RenderError}
    (h : (trailing d.options).failure? = some e) : e.node ≠ "column options" := by
  have hblames : Blames exprNodes (trailing d.options).failure? := by
    rw [failure?_options]
    exact (Blames.bind DefaultClause.blames _).or (.findSome? (fun k => k.rule.blames) _)
  have hnode := hblames e h
  intro he
  rw [he] at hnode
  revert hnode
  decide

variable {d}

private theorem render_kept :
    d.kept.doc.render c =
      ((trailing d.options).render c).map (d.name.escape c.quote c.alphabet ++ ·) := by
  have hname : (ident d.name).render c = .ok (d.name.escape c.quote c.alphabet) :=
    render_eq_ok_iff.mpr ⟨failure?_ident d.name, spell_ident c d.name⟩
  rw [doc_kept, render_append_of_ok hname]

private theorem render_withOptions (h : ¬ (d.constraints = [] ∧ d.default? = none)) :
    d.withOptions.doc.render c = ((trailing d.options).render c).map
      (d.name.escape c.quote c.alphabet ++ (c.whitespace.toString ++ "WITH OPTIONS") ++ ·) := by
  have hhead : (ident d.name ++ (space ++ text "WITH OPTIONS")).render c =
      .ok (d.name.escape c.quote c.alphabet ++ (c.whitespace.toString ++ "WITH OPTIONS")) := by
    refine render_eq_ok_iff.mpr ⟨by simp, ?_⟩
    rw [spell_append, spell_append, spell_ident, spell_space, spell_text]
  rw [doc_withOptions d h, render_append_of_ok hhead]

private theorem error_withOptions_iff :
    (∃ e, d.withOptions.doc.render c = .error e ∧ e.node = "column options") ↔
      d.constraints = [] ∧ d.default? = none := by
  constructor
  · rintro ⟨e, he, hnode⟩
    by_contra h
    rw [render_eq_error_iff, doc_withOptions d h] at he
    exact d.node_ne_of_failure?_options (by simpa using he) hnode
  · rintro ⟨hconstraints, hdefault⟩
    rw [d.doc_withOptions_of_empty hconstraints hdefault]
    exact ⟨_, rfl, rfl⟩

/-- Among the columns of a typed table a column keeps its name, its default and all constraints.
Without any of the last two it fails as column options, and for no other reason. Otherwise it is
written as the column is without its type, its collation and another value: the two have the same
error or the same text behind the name, which is that of the default and of all constraints in
order. -/
theorem withOptions_renders_alike (d : ColumnDef) (c : Setting) :
    ((∃ e, d.withOptions.doc.render c = .error e ∧ e.node = "column options") ↔
      d.constraints = [] ∧ ∀ k, d.value ≠ some (.default k)) ∧
    (d.constraints = [] → (∀ k, d.value ≠ some (.default k)) →
      d.withOptions.doc.render c =
        .error (.invalid "column options" (.noColumnOptions d.name))) ∧
    (d.constraints ≠ [] ∨ (∃ k, d.value = some (.default k)) →
      ∃ rest : Except RenderError String,
        d.kept.doc.render c = rest.map (d.name.escape c.quote c.alphabet ++ ·) ∧
        d.withOptions.doc.render c =
          rest.map
            (d.name.escape c.quote c.alphabet ++ (c.whitespace.toString ++ "WITH OPTIONS") ++ ·) ∧
        ∀ behind, rest = .ok behind → ∃ texts,
          List.Forall₂ (fun o t => o.render c = .ok t) d.options texts ∧
          behind = String.join (texts.map (c.whitespace.toString ++ ·))) ∧
    ∀ name changes, d = build name changes →
      d.withOptions =
        { name
          default := (last? Change.value? changes).bind (·.default?)
          constraints := changes.filterMap Change.constraint? } := by
  refine ⟨?_, ?_, ?_, ?_⟩
  · rw [error_withOptions_iff, default?_eq_none_iff]
  · intro hconstraints hvalue
    rw [d.doc_withOptions_of_empty hconstraints (d.default?_eq_none_iff.mpr hvalue)]
    rfl
  · intro hsome
    have h : ¬ (d.constraints = [] ∧ d.default? = none) := by
      rintro ⟨hconstraints, hdefault⟩
      obtain hne | ⟨k, hk⟩ := hsome
      · exact hne hconstraints
      · exact d.default?_eq_none_iff.mp hdefault k hk
    exact ⟨_, render_kept c, render_withOptions c h, fun _ => exists_texts_of_trailing⟩
  · rintro name changes rfl
    rw [build_eq_given]
    rfl

/-- A column with a default, and one that has only what a typed table does not take. -/
theorem withOptions_renders_alike_default :
    let salary : ColumnDef :=
      build ⟨"salary"⟩ [.type (.integer .integer), .default ⟨.raw "1000"⟩, .rule .notNull]
    let start : ColumnDef := build ⟨"start"⟩ [.rowStart]
    salary.constraints ≠ [] ∧ start.constraints = [] ∧ (∀ k, start.value ≠ some (.default k)) ∧
      salary.kept.doc.render .default = .ok "salary DEFAULT 1000 NOT NULL" ∧
      (∃ rest : Except RenderError String,
        .ok "salary DEFAULT 1000 NOT NULL" = rest.map ("salary" ++ ·) ∧
        salary.withOptions.doc.render .default = rest.map ("salary WITH OPTIONS" ++ ·)) ∧
      start.withOptions.doc.render .default =
        .error (.invalid "column options" (.noColumnOptions ⟨"start"⟩)) := by
  intro salary start
  have hconstraints : salary.constraints ≠ [] := List.cons_ne_nil _ _
  have hvalue : ∀ k, start.value ≠ some (.default k) := by
    intro k hk
    cases hk
  have hkept : salary.kept.doc.render .default = .ok "salary DEFAULT 1000 NOT NULL" := by decide
  have hname : salary.name.escape Setting.default.quote Setting.default.alphabet = "salary" := by
    decide
  have hhead : "salary" ++ (Setting.default.whitespace.toString ++ "WITH OPTIONS") =
      "salary WITH OPTIONS" := by decide
  obtain ⟨-, -, halike, -⟩ := withOptions_renders_alike salary .default
  obtain ⟨-, hbare, -, -⟩ := withOptions_renders_alike start .default
  obtain ⟨rest, hrest, hrender, -⟩ := halike (.inl hconstraints)
  rw [hkept, hname] at hrest
  rw [hname, hhead] at hrender
  exact ⟨hconstraints, rfl, hvalue, hkept, ⟨rest, hrest, hrender⟩, hbare rfl hvalue⟩

end ColumnDef

end SqlTree
