import Mathlib.Data.List.Forall2
import SqlTree.Proofs.Changes
import SqlTree.Proofs.Failure.Statement

/-! Rows and assignments that are added one call at a time: nothing is lost but what a later call
replaces as a whole, and each row is written once, with the same text in a statement of its own. -/
namespace SqlTree
open Changes Doc

namespace InsertSource

/-- The rows of values, if there are any. -/
def rows : InsertSource → List (List Expr)
  | values rows => rows
  | _ => []

end InsertSource

namespace Insert

attribute [ext] Insert

namespace Change

def columns? : Change → Option (List Ident)
  | columns names => some names
  | _ => none

def overriding? : Change → Option Overriding
  | overriding o => some o
  | _ => none

/-- The source that a call puts in the place of all rows. -/
def source? : Change → Option InsertSource
  | query q => some (.query q)
  | defaultValues => some .defaultValues
  | _ => none

def row? : Change → Option (List Expr)
  | values row => some row
  | _ => none

private theorem rows_of_source? {k : Change} {s : InsertSource} (h : k.source? = some s) :
    s.rows = [] := by
  cases k <;> cases h <;> rfl

end Change

section
variable (i : Insert) (k : Change)

private theorem change_values (row : List Expr) :
    i.change (.values row) = { i with source := .values (i.source.rows ++ [row]) } := by
  obtain ⟨table, columns, overriding, source⟩ := i
  cases source <;> rfl

private theorem table_change : (i.change k).table = i.table := by
  cases k with
  | values row => rw [change_values]
  | _ => rfl

private theorem columns_change : (i.change k).columns = k.columns?.getD i.columns := by
  cases k with
  | values row => rw [change_values]; rfl
  | _ => rfl

private theorem overriding_change : (i.change k).overriding = k.overriding?.or i.overriding := by
  cases k with
  | values row => rw [change_values]; rfl
  | _ => rfl

private theorem source_change :
    (i.change k).source =
      k.source?.getD (k.row?.elim i.source fun row => .values (i.source.rows ++ [row])) := by
  cases k with
  | values row => rw [change_values]; rfl
  | _ => rfl

end

variable (table : TableName) (changes : List Change)

/-- The rows that are added behind the last source. -/
def addedRows : List (List Expr) :=
  (since Change.source? changes).filterMap Change.row?

/-- The rows behind the last source, or that source if there are none. -/
def givenSource : InsertSource :=
  if (addedRows changes).isEmpty then (last? Change.source? changes).getD .defaultValues
  else .values (addedRows changes)

/-- The last columns and the last overriding that are given, and the source. -/
def given : Insert :=
  { table
    columns := (last? Change.columns? changes).getD []
    overriding := last? Change.overriding? changes
    source := givenSource changes }

private theorem source_build : (build table changes).source = givenSource changes :=
  foldl_renewed change changes { table } Insert.source Change.source? Change.row?
    InsertSource.rows .values (fun _ => rfl) rfl (fun _ _ => Change.rows_of_source?) source_change

theorem build_eq_given : build table changes = given table changes := by
  ext1
  case table => exact foldl_kept change changes { table } Insert.table table_change
  case columns =>
    exact foldl_replaced change changes { table } Insert.columns Change.columns? columns_change
  case overriding =>
    exact foldl_given change changes { table } Insert.overriding Change.overriding? rfl
      overriding_change
  case source => exact source_build table changes

end Insert

/-- Each item stands on an indented line. -/
private theorem Doc.spell_lines (c : Setting) (ds : List Doc) :
    spell c (lines ds) = c.separator.toString.intercalate (ds.map ("\n\t" ++ spell c ·)) := by
  have hline : ∀ d : Doc, spell c (lines.line d) = "\n\t" ++ spell c d := by
    intro d
    have hhead : "\n\t" = "\n" ++ "\t" := rfl
    simp only [lines.line, spell_append, spell_text, hhead]
  rw [lines_eq_joined, spell_joined, spell_separator, List.map_map]
  simp only [Function.comp_def, hline]

namespace InsertSource
variable {c : Setting} {rows : List (List Expr)}

/-- The texts of rows in their parentheses: one row stands behind a space, several rows stand on
lines of their own. -/
def rowsText (c : Setting) : List String → String
  | [row] => c.whitespace.toString ++ row
  | rows => c.separator.toString.intercalate (rows.map ("\n\tROW" ++ ·))

private theorem spell_values (c : Setting) (h : rows ≠ []) :
    (values rows).doc.spell c =
      "VALUES" ++ rowsText c (rows.map fun row => (valuesRow row).spell c) := by
  match rows with
  | [row] => simp [doc, rowsText, spell_append]
  | row :: next :: rows =>
    have hdoc : (values (row :: next :: rows)).doc =
        text "VALUES" ++ lines ((row :: next :: rows).map (text "ROW" ++ valuesRow ·)) := rfl
    have hline : ∀ row : List Expr, "\n\t" ++ spell c (text "ROW" ++ valuesRow row) =
        "\n\tROW" ++ spell c (valuesRow row) := by
      intro row
      have hhead : "\n\tROW" = "\n\t" ++ "ROW" := rfl
      rw [spell_append, spell_text, hhead, String.append_assoc]
    rw [hdoc, spell_append, spell_text, spell_lines]
    simp only [rowsText, List.map_cons, List.map_map, Function.comp_def, hline]

/-- The rows of a source that can be written can all be written on their own. -/
private theorem failure?_valuesRow_eq_none (h : (values rows).doc.failure? = none) :
    rows ≠ [] ∧ ∀ row ∈ rows, (valuesRow row).failure? = none := by
  rw [failure?_doc, defect?, Option.or_eq_none_iff, List.findSome?_eq_none_iff] at h
  obtain ⟨hrows, hrow⟩ := h
  refine ⟨?_, fun row hmem => ?_⟩
  · rintro rfl
    cases hrows
  · rw [Doc.failure?_valuesRow]
    exact hrow row hmem

end InsertSource

namespace MatchedAction

/-- The assignments of an update. -/
def assignments : MatchedAction → List Assignment
  | update assignments => assignments
  | _ => []

end MatchedAction

namespace WhenMatched

attribute [ext] WhenMatched

namespace Change

def condition? : Change → Option Expr
  | condition e => some e
  | _ => none

/-- The action that a call puts in the place of the last one. -/
def action? : Change → Option MatchedAction
  | update assignments => some (.update assignments)
  | delete => some .delete
  | doNothing => some .doNothing
  | _ => none

def assignment? : Change → Option Assignment
  | set column value => some (.column column value)
  | _ => none

end Change

section
variable (w : WhenMatched) (k : Change)

private theorem change_set (column : Ident) (value : Expr) :
    w.change (.set column value) =
      { w with action := .update (w.action.assignments ++ [.column column value]) } := by
  obtain ⟨condition, action⟩ := w
  cases action <;> rfl

private theorem condition_change : (w.change k).condition = k.condition?.or w.condition := by
  cases k with
  | set column value => rw [change_set]; rfl
  | _ => rfl

private theorem action_change :
    (w.change k).action =
      k.action?.getD
        (k.assignment?.elim w.action fun a => .update (w.action.assignments ++ [a])) := by
  cases k with
  | set column value => rw [change_set]; rfl
  | _ => rfl

end

variable (changes : List Change)

/-- The last action that is given as a whole. -/
def lastAction : MatchedAction :=
  (last? Change.action? changes).getD .doNothing

/-- The assignments that are added behind it. -/
def addedAssignments : List Assignment :=
  (since Change.action? changes).filterMap Change.assignment?

/-- Assignments make an update of every action; those of an update stay in front. -/
def givenAction : MatchedAction :=
  if (addedAssignments changes).isEmpty then lastAction changes
  else .update ((lastAction changes).assignments ++ addedAssignments changes)

def given : WhenMatched :=
  { condition := last? Change.condition? changes
    action := givenAction changes }

theorem build_eq_given : build changes = given changes := by
  ext1
  case condition =>
    exact foldl_given change changes {} WhenMatched.condition Change.condition? rfl
      condition_change
  case action =>
    exact foldl_collected change changes {} WhenMatched.action Change.action? Change.assignment?
      MatchedAction.assignments .update (fun _ => rfl) action_change

end WhenMatched

private theorem unevenRow?_eq_none_iff (expected : Nat) (rows : List (List Expr)) :
    unevenRow? expected rows = none ↔ ∀ row ∈ rows, row.length = expected := by
  constructor
  · intro h row hrow
    obtain ⟨n, hn⟩ := List.getElem?_of_mem hrow
    have hmem : (row, 1 + n) ∈ rows.zipIdx 1 := List.mk_add_mem_zipIdx_iff_getElem?.mpr hn
    have hnone := List.findSome?_eq_none_iff.mp h _ hmem
    simpa using hnone
  · intro h
    refine List.findSome?_eq_none_iff.mpr fun numbered hrow => ?_
    simp [h numbered.1 (List.fst_mem_of_mem_zipIdx hrow)]

namespace Insert
variable {i : Insert} {rows : List (List Expr)} {row : List Expr} {c : Setting}

/-- What a statement says before its source. -/
def head (i : Insert) : Doc :=
  text "INSERT INTO" ++ space ++ i.table.doc ++ space ++ insertColumns i.columns i.overriding

/-- The same statement for one row. -/
def withRow (i : Insert) (row : List Expr) : Insert :=
  { i with source := .values [row] }

private theorem doc_eq_head_append (h : i.problem? = none) : i.doc = i.head ++ i.source.doc := by
  rw [doc, h, head, List.append_assoc, List.append_assoc]

private theorem problem?_eq_none (h : i.doc.failure? = none) : i.problem? = none := by
  cases hp : i.problem? with
  | none => rfl
  | some problem => simp [doc, hp] at h

private theorem problem?_withRow (hsource : i.source = .values rows) (h : i.problem? = none)
    (hrow : row ∈ rows) : (i.withRow row).problem? = none := by
  cases hcolumns : i.columns with
  | nil => simp [problem?, withRow, hcolumns]
  | cons name names =>
    simp only [problem?, withRow, hsource, hcolumns, List.isEmpty_cons, Bool.false_eq_true,
      if_false, unevenRow?_eq_none_iff] at h ⊢
    simpa using h row hrow

/-- A row is written by itself, so each row of a statement has the text that it has alone, between
its parentheses and in a statement for this row. -/
private theorem render_rows {sql : String} (hsource : i.source = .values rows)
    (h : i.doc.render c = .ok sql) :
    ∃ texts, sql = i.head.spell c ++ ("VALUES" ++ InsertSource.rowsText c texts) ∧
      List.Forall₂ (fun row t => (valuesRow row).render c = .ok t ∧
        (i.withRow row).doc.render c =
          .ok (i.head.spell c ++ ("VALUES" ++ (c.whitespace.toString ++ t)))) rows texts := by
  obtain ⟨hf, rfl⟩ := render_eq_ok_iff.mp h
  have hproblem := problem?_eq_none hf
  have hdoc : i.doc = i.head ++ (InsertSource.values rows).doc := by
    rw [doc_eq_head_append hproblem, hsource]
  rw [hdoc, failure?_append, Option.or_eq_none_iff] at hf
  obtain ⟨hne, hrows⟩ := InsertSource.failure?_valuesRow_eq_none hf.2
  refine ⟨rows.map fun row => (valuesRow row).spell c, ?_, ?_⟩
  · rw [hdoc, spell_append, InsertSource.spell_values c hne]
  · rw [List.forall₂_map_right_iff, List.forall₂_same]
    intro row hmem
    have hrow := hrows row hmem
    have hdoc' : (i.withRow row).doc = i.head ++ (text "VALUES" ++ space ++ valuesRow row) :=
      doc_eq_head_append (problem?_withRow hsource hproblem hmem)
    refine ⟨render_eq_ok_iff.mpr ⟨hrow, rfl⟩, render_eq_ok_iff.mpr ⟨?_, ?_⟩⟩
    · simp [hdoc', hf.1, hrow]
    · simp [hdoc', spell_append]

end Insert

/-- An insert holds the rows that were added since its source was last replaced, and a clause for
matching rows the last action and the assignments that were added to it; columns, overriding and
condition are the last ones given. Each row is written once, in order, with the text that it has in
an insert of its own. -/
theorem build_keeps_added (table : TableName) (changes : List Insert.Change)
    (steps : List WhenMatched.Change) :
    Insert.build table changes = Insert.given table changes ∧
    WhenMatched.build steps = WhenMatched.given steps ∧
    ∀ (rows : List (List Expr)) (c : Setting) (sql : String),
      (Insert.build table changes).source = .values rows →
      (Insert.build table changes).doc.render c = .ok sql →
      ∃ texts, sql = (Insert.build table changes).head.spell c ++
          ("VALUES" ++ InsertSource.rowsText c texts) ∧
        List.Forall₂ (fun row t => (valuesRow row).render c = .ok t ∧
          ((Insert.build table changes).withRow row).doc.render c =
            .ok ((Insert.build table changes).head.spell c ++
              ("VALUES" ++ (c.whitespace.toString ++ t)))) rows texts := by
  refine ⟨Insert.build_eq_given table changes, WhenMatched.build_eq_given steps, ?_⟩
  intro rows c sql hsource h
  exact Insert.render_rows hsource h

/-- The first row is lost to the query, and the two rows behind it are kept. The deletion gives way
to the assignment behind it, and the condition stays. -/
theorem build_keeps_added_rows :
    Insert.build (.qualified { name := ⟨"t"⟩ })
        [.values [.raw "1"], .query { items := [.all] }, .values [.raw "2"], .columns [⟨"a"⟩],
          .values [.raw "3"]] =
      { table := .qualified { name := ⟨"t"⟩ }, columns := [⟨"a"⟩],
        source := .values [[.raw "2"], [.raw "3"]] } ∧
    WhenMatched.build [.set ⟨"b"⟩ (.raw "4"), .condition (.raw "x"), .delete,
        .set ⟨"a"⟩ (.raw "5")] =
      { condition := some (.raw "x"), action := .update [.column ⟨"a"⟩ (.raw "5")] } ∧
    (Insert.build (.qualified { name := ⟨"t"⟩ })
        [.values [.raw "1"], .query { items := [.all] }, .values [.raw "2"], .columns [⟨"a"⟩],
          .values [.raw "3"]]).doc.render .default =
      .ok "INSERT INTO t (a) VALUES\n\tROW(2),\n\tROW(3)" ∧
    ∃ texts, texts.length = 2 ∧ "INSERT INTO t (a) VALUES\n\tROW(2),\n\tROW(3)" =
      "INSERT INTO t (a) " ++ ("VALUES" ++ InsertSource.rowsText .default texts) := by
  obtain ⟨hinsert, hmatched, hrows⟩ := build_keeps_added (.qualified { name := ⟨"t"⟩ })
    [.values [.raw "1"], .query { items := [.all] }, .values [.raw "2"], .columns [⟨"a"⟩],
      .values [.raw "3"]]
    [.set ⟨"b"⟩ (.raw "4"), .condition (.raw "x"), .delete, .set ⟨"a"⟩ (.raw "5")]
  obtain ⟨texts, htext, heach⟩ := hrows [[.raw "2"], [.raw "3"]] .default
    "INSERT INTO t (a) VALUES\n\tROW(2),\n\tROW(3)" rfl rfl
  exact ⟨hinsert, hmatched, rfl, texts, heach.length_eq.symm, htext⟩

end SqlTree
