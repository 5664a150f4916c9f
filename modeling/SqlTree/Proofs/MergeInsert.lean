import SqlTree.Proofs.Failure.Statement

/-! The insert action of a merge beside the insert statement with the same columns, overriding and
values. They fail on the same inputs and say the same, except that a merge which inserts default
values has no place for an overriding. -/
namespace SqlTree
open Doc

namespace MergeInsert
variable {c : Setting} {i : MergeInsert}

def source (i : MergeInsert) : InsertSource :=
  match i.values with
  | none => .defaultValues
  | some row => .values [row]

/-- The statement that inserts the same row into `table`. -/
def statement (i : MergeInsert) (table : TableName) : Insert :=
  { table, columns := i.columns, overriding := i.overriding, source := i.source }

/-- Only the order differs in which an empty row and its length are complained about. -/
theorem defect?_eq_none_iff (i : MergeInsert) (t : TableName) :
    i.defect? = none ↔ (i.statement t).defect? = none := by
  obtain ⟨columns, overriding, values⟩ := i
  cases values with
  | none => cases columns <;> rfl
  | some row =>
    cases columns with
    | nil => simp [defect?, Insert.defect?, statement, source, InsertSource.defect?, absent?]
    | cons name names =>
      by_cases h : row.length = names.length + 1 <;>
        simp [defect?, Insert.defect?, statement, source, InsertSource.defect?,
          InsertSource.columnDefect?, lengthDefect?, rowDefect?, absent?, h]

private theorem doc_of_problem?_eq_none {row : List Expr} (hp : i.problem? = none)
    (hv : i.values = some row) :
    i.doc = text "INSERT" ++ space ++ (insertColumns i.columns i.overriding ++ i.source.doc) := by
  simp [doc, hp, hv, source, InsertSource.doc]

private theorem problem?_eq_none (h : i.doc.failure? = none) : i.problem? = none := by
  cases hp : i.problem? with
  | none => rfl
  | some problem => simp [doc, hp] at h

end MergeInsert

private theorem Insert.doc_of_failure?_eq_none {i : Insert} (h : i.doc.failure? = none) :
    i.doc = text "INSERT INTO" ++ space ++ i.table.doc ++ space
      ++ (insertColumns i.columns i.overriding ++ i.source.doc) := by
  cases hp : i.problem? with
  | none => simp [doc, hp]
  | some problem => simp [doc, hp] at h

namespace MergeInsert
variable {c : Setting} {i : MergeInsert} {t : TableName}

private theorem failure?_doc_eq_none_iff :
    i.doc.failure? = none ↔ (i.statement t).doc.failure? = none := by
  rw [i.failure?_doc, (i.statement t).failure?_doc]
  exact i.defect?_eq_none_iff t

/-- All that follows the name of the table. -/
def body (i : MergeInsert) : Doc :=
  insertColumns i.columns i.overriding ++ i.source.doc

private theorem spell_statement (hw : c.whitespace = ' ')
    (h : (i.statement t).doc.failure? = none) : (i.statement t).doc.spell c =
      "INSERT INTO " ++ t.doc.spell c ++ " " ++ i.body.spell c := by
  have hhead : "INSERT INTO" ++ " " = "INSERT INTO " := rfl
  rw [Insert.doc_of_failure?_eq_none h]
  simp only [statement, body, spell_append, spell_text, spell_space, hw, Char.toString_eq_singleton,
    String.append_assoc]
  rw [← hhead, String.append_assoc]
  rfl

private theorem spell_of_values {row : List Expr} (hw : c.whitespace = ' ')
    (h : i.doc.failure? = none)
    (hv : i.values = some row) : i.doc.spell c = "INSERT " ++ i.body.spell c := by
  have hhead : "INSERT" ++ " " = "INSERT " := rfl
  rw [doc_of_problem?_eq_none (problem?_eq_none h) hv]
  simp only [body, spell_append, spell_text, spell_space, hw]
  rw [← hhead]
  rfl

private theorem spell_of_defaults (h : i.doc.failure? = none) (hv : i.values = none) :
    i.doc.spell c = "INSERT DEFAULT VALUES" := by
  have hp := problem?_eq_none h
  simp [doc, hp, hv]

private theorem body_of_defaults (hw : c.whitespace = ' ') (h : i.doc.failure? = none)
    (hv : i.values = none) :
    i.body.spell c =
      i.overriding.elim "" (Spelled.keyword · ++ " ") ++ "DEFAULT VALUES" := by
  have hp := problem?_eq_none h
  have hcolumns : i.columns = [] := by
    cases hc : i.columns with
    | nil => rfl
    | cons name names => simp [problem?, hv, hc] at hp
  have hsource : i.source.doc = text "DEFAULT VALUES" := by simp [source, hv, InsertSource.doc]
  rw [body, hcolumns, hsource, spell_append, spell_text]
  cases i.overriding with
  | none => simp [insertColumns, Doc.optional]
  | some o =>
    simp [insertColumns, Doc.optional, keyword, spell_append, hw, Char.toString_eq_singleton]

/-- Both succeed or both fail. If they succeed, the merge says what follows the name of the table in
the statement, unless default values are inserted with an overriding: this one the merge leaves
out. -/
theorem render_statement (hc : c.toConfig ∈ Config.default :: Dialect.presets.map (·.config))
    (i : MergeInsert) (t : TableName) :
    ((∃ merged, i.doc.render c = .ok merged) ↔
      ∃ inserted, (i.statement t).doc.render c = .ok inserted) ∧
    ∀ merged inserted, i.doc.render c = .ok merged → (i.statement t).doc.render c = .ok inserted →
      ∃ table rest, t.doc.render c = .ok table ∧
        inserted = "INSERT INTO " ++ table ++ " " ++ rest ∧
        (i.values.isSome ∨ i.overriding = none → merged = "INSERT " ++ rest) ∧
        (∀ o, i.values = none → i.overriding = some o →
          merged = "INSERT DEFAULT VALUES" ∧
            rest = Spelled.keyword o ++ " " ++ "DEFAULT VALUES") := by
  obtain ⟨hw, -⟩ := Dialect.presets_marks c.toConfig hc
  refine ⟨?_, ?_⟩
  · rw [exists_render_eq_ok_iff, exists_render_eq_ok_iff]
    exact failure?_doc_eq_none_iff
  · intro merged inserted hmerged hinserted
    obtain ⟨hf, rfl⟩ := render_eq_ok_iff.mp hmerged
    obtain ⟨hf', rfl⟩ := render_eq_ok_iff.mp hinserted
    refine ⟨t.doc.spell c, i.body.spell c, render_eq_ok_iff.mpr ⟨t.failure?_doc, rfl⟩,
      spell_statement hw hf', ?_, ?_⟩
    · intro h
      cases hv : i.values with
      | some row => exact spell_of_values hw hf hv
      | none =>
        have ho : i.overriding = none := by simpa [hv] using h
        rw [spell_of_defaults hf hv, body_of_defaults hw hf hv, ho]
        rfl
    · intro o hv ho
      refine ⟨spell_of_defaults hf hv, ?_⟩
      rw [body_of_defaults hw hf hv, ho]
      rfl

/-- A name that needs quotes, an overriding and a row. -/
theorem render_statement_row :
    Dialect.generic.config ∈ Config.default :: Dialect.presets.map (·.config) ∧
    (MergeInsert.mk [⟨"id"⟩, ⟨"a b"⟩] (some .userValue)
      (some [.raw "1", .value .default])).doc.render Dialect.generic.config =
        .ok "INSERT (id, \"a b\") OVERRIDING USER VALUE VALUES (1, DEFAULT)" ∧
    ∃ rest, "INSERT INTO t (id, \"a b\") OVERRIDING USER VALUE VALUES (1, DEFAULT)" =
        "INSERT INTO " ++ "t" ++ " " ++ rest ∧
      "INSERT (id, \"a b\") OVERRIDING USER VALUE VALUES (1, DEFAULT)" = "INSERT " ++ rest := by
  have hc : Dialect.generic.config ∈ Config.default :: Dialect.presets.map (·.config) := by decide
  obtain ⟨-, h⟩ := render_statement (c := Dialect.generic.config) hc
    ⟨[⟨"id"⟩, ⟨"a b"⟩], some .userValue, some [.raw "1", .value .default]⟩
    (.qualified { name := ⟨"t"⟩ })
  obtain ⟨table, rest, htable, hinserted, hmerged, -⟩ := h _ _ rfl rfl
  obtain rfl : "t" = table := Except.ok.inj htable
  exact ⟨hc, rfl, rest, hinserted, hmerged (.inl rfl)⟩

/-- The statement keeps the overriding, and the merge loses it. -/
theorem render_statement_loses_overriding :
    ¬ ∀ (i : MergeInsert) (t : TableName) (merged inserted : String),
      i.doc.render .default = .ok merged → (i.statement t).doc.render .default = .ok inserted →
        ∃ table rest, t.doc.render .default = .ok table ∧
          inserted = "INSERT INTO " ++ table ++ " " ++ rest ∧ merged = "INSERT " ++ rest := by
  intro h
  obtain ⟨table, rest, htable, hinserted, hmerged⟩ :=
    h { overriding := some .userValue, values := none } (.qualified { name := ⟨"t"⟩ })
      "INSERT DEFAULT VALUES" "INSERT INTO t OVERRIDING USER VALUE DEFAULT VALUES" rfl rfl
  obtain rfl : "t" = table := Except.ok.inj htable
  obtain rfl : "DEFAULT VALUES" = rest := (String.append_right_inj "INSERT ").mp hmerged
  revert hinserted
  decide

end MergeInsert
end SqlTree
