import SqlTree.Proofs.Phrase.Query
import SqlTree.Proofs.Phrase.Table

/-! Statements, and with them all that this library writes, are phrases. -/
namespace SqlTree
open Doc

private theorem valuesRow_phrase (row : List Expr) : Phrase (valuesRow row) (Expr.atomsAll row) :=
  (Phrase.required "VALUES" "value" (Expr.phrases row)).paren

theorem InsertSource.phrase (s : InsertSource) : Phrase s.doc s.atoms := by
  have hvalues : Word "VALUES" := .ofList rfl
  cases s with
  | defaultValues => exact .word (.ofList rfl)
  | query q => exact q.phrase
  | values rows =>
    -- one row is written without the keyword that each of several rows has
    match rows with
    | [] => exact .breakOff _ (.word hvalues)
    | [row] =>
      simpa [InsertSource.doc, atoms] using Phrase.lead (.word hvalues) (valuesRow_phrase row)
    | row :: next :: rows =>
      have hrow (r : List Expr) : Phrase (text "ROW" ++ valuesRow r) (Expr.atomsAll r) := by
        have hkeyword : Word "ROW" := .ofList rfl
        exact .thenParen (.word hkeyword) (valuesRow_phrase r)
      have h := Phrase.lines (.word hvalues) (.map (row :: next :: rows) hrow)
      exact h

private theorem insertColumns_phrase {e : Doc} {as : List Atom} (columns : List Ident)
    (overriding : Option Overriding) (he : Phrase e as) :
    Phrase (insertColumns columns overriding ++ e) (columns.map .name ++ as) := by
  have hrest := Phrase.beforeFixed (v := overriding) .space (fun o _ => .keyword o) he
  unfold insertColumns
  split
  · rename_i hnil
    simpa [List.isEmpty_iff.1 hnil] using hrest
  · have hcolumns := Phrase.parenJoined .comma (.names columns)
    simpa [list] using Phrase.join .space hcolumns hrest

theorem Insert.phrase (i : Insert) : Phrase i.doc i.atoms := by
  unfold Insert.doc
  split
  · exact .failure _ _
  · have hinsert : Word "INSERT INTO" := .ofList rfl
    have htable := Phrase.lead (.word hinsert) i.table.phrase
    have hrest := insertColumns_phrase i.columns i.overriding i.source.phrase
    simpa [Insert.atoms] using Phrase.join .space htable hrest

theorem Assignment.phrase (a : Assignment) : Phrase a.doc a.atoms := by
  have hequals : Word "=" := .ofList rfl
  cases a with
  | column name value => exact .join .space ((Phrase.name name).trail (.word hequals)) value.phrase
  | row columns value =>
    have hcolumns := Phrase.required "assignment" "column" (.names columns)
    exact .join .space (hcolumns.paren.trail (.word hequals)) value.phrase
  | raw s => exact .verbatim s

theorem RowFilter.phrase (f : RowFilter) : Phrase f.doc f.atoms := by
  have hwhere : Word "WHERE" := .ofList rfl
  have hcurrent : Word "CURRENT OF" := .ofList rfl
  cases f with
  | search condition => exact .lead (.word hwhere) condition.phrase
  | currentOf cursor => exact .lead ((Phrase.word hwhere).trail (.word hcurrent)) (.name cursor)

theorem Update.phrase (u : Update) : Phrase u.doc u.atoms := by
  unfold Update.doc
  split
  · exact .failure _ _
  · rename_i hsome
    have hupdate : Word "UPDATE" := .ofList rfl
    have has : Word "AS" := .ofList rfl
    have hset : Word "SET" := .ofList rfl
    have htable := (Phrase.lead (.word hupdate) u.table.phrase).clause (v := u.alias) has .name
    have hassignments := (Phrases.map u.assignments (·.phrase)).joined .comma
      (by simpa using hsome)
    exact (Phrase.join .space (htable.trail (.word hset)) hassignments).after (·.phrase)

theorem Delete.phrase (d : Delete) : Phrase d.doc d.atoms := by
  have hdelete : Word "DELETE FROM" := .ofList rfl
  have honly : Word "ONLY" := .ofList rfl
  have htable := Phrase.lead (.word hdelete) (.mark (b := d.only) honly d.table.phrase)
  have has : Word "AS" := .ofList rfl
  have h := (htable.clause (v := d.alias) has .name).after (v := d.filter) (·.phrase)
  simpa [Delete.doc, Delete.atoms] using h

theorem Truncate.phrase (t : Truncate) : Phrase t.doc t.atoms := by
  unfold Truncate.doc
  split
  · exact .failure _ _
  · rename_i hsome
    have htruncate : Word "TRUNCATE TABLE" := .ofList rfl
    have htables := (Phrases.map t.tables (·.phrase)).joined .comma (by simpa using hsome)
    exact (Phrase.lead (.word htruncate) htables).afterFixed (fun i _ => .keyword i)
      |>.afterFixed fun b _ => .keyword b

theorem MatchedAction.phrase (a : MatchedAction) : Phrase a.doc a.atoms := by
  cases a with
  | update assignments =>
    have hupdate : Word "UPDATE SET" := .ofList rfl
    exact .lead (.word hupdate) (.required _ _ (.map assignments (·.phrase)))
  | delete => exact .word (.ofList rfl)
  | doNothing => exact .word (.ofList rfl)

private theorem whenHead_phrase {k : String} {e : Doc} {as : List Atom} (condition : Option Expr)
    (hk : Word k) (he : Phrase e as) :
    Phrase (whenHead k condition ++ e) (condition.elim [] (·.atoms) ++ as) := by
  have hand : Word "AND" := .ofList rfl
  have hthen : Word "THEN" := .ofList rfl
  have hcondition (e : Expr) : Phrase (text "AND" ++ space ++ e.doc) e.atoms :=
    .lead (.word hand) e.phrase
  have hrest := Phrase.before (v := condition) .space hcondition (.lead (.word hthen) he)
  simpa [whenHead] using Phrase.lead (.word hk) hrest

theorem WhenMatched.phrase (w : WhenMatched) : Phrase w.doc w.atoms :=
  whenHead_phrase w.condition (.ofList rfl) w.action.phrase

/-- A row of defaults is written only without a column list, so no column is lost. -/
theorem MergeInsert.phrase (i : MergeInsert) : Phrase i.doc i.atoms := by
  unfold MergeInsert.doc
  split
  · exact .failure _ _
  · rename_i hproblem hvalues
    have hcolumns : i.columns = [] := by simpa [problem?, hvalues] using hproblem
    simpa [MergeInsert.atoms, hvalues, hcolumns] using
      Phrase.word (s := "INSERT DEFAULT VALUES") (.ofList rfl)
  · rename_i row _ hrow
    have hinsert : Word "INSERT" := .ofList rfl
    have hvalues : Word "VALUES" := .ofList rfl
    have hrest := insertColumns_phrase i.columns i.overriding
      (.lead (.word hvalues) (valuesRow_phrase row))
    simpa [MergeInsert.atoms, hrow] using Phrase.lead (.word hinsert) hrest

theorem NotMatchedAction.phrase (a : NotMatchedAction) : Phrase a.doc a.atoms := by
  cases a with
  | insert i => exact i.phrase
  | doNothing => exact .word (.ofList rfl)

theorem WhenNotMatched.phrase (w : WhenNotMatched) : Phrase w.doc w.atoms :=
  whenHead_phrase w.condition (.ofList rfl) w.action.phrase

theorem MergeWhen.phrase (w : MergeWhen) : Phrase w.doc w.atoms := by
  cases w with
  | matched w => exact w.phrase
  | notMatched w => exact w.phrase

theorem Merge.phrase (m : Merge) : Phrase m.doc m.atoms := by
  have hmerge : Word "MERGE INTO" := .ofList rfl
  have has : Word "AS" := .ofList rfl
  have husing : Word "USING" := .ofList rfl
  have hon : Word "ON" := .ofList rfl
  have htarget := (Phrase.lead (.word hmerge) m.target.phrase).clause (v := m.alias) has .name
  have hsource := Phrase.requiredPart (v := m.source) "MERGE" "source" (·.phrase)
  have hcondition := Phrase.requiredPart (v := m.on) "MERGE" "join condition" (·.phrase)
  have hclauses : Phrase (if m.clauses.isEmpty then missing "MERGE" "WHEN clause"
      else MergeWhen.docAll m.clauses) (m.clauses.flatMap (·.atoms)) := by
    split
    · exact .failure _ _
    · rename_i hsome
      exact (Phrases.map m.clauses (·.phrase)).joined .space (by simpa using hsome)
  exact .join .space (.join .space (.trail (.join .space (.trail htarget (.word husing)) hsource)
    (.word hon)) hcondition) hclauses

/-- The documents that may also be empty are those of lists and of parts that need not say
anything. -/
theorem Construct.phrase (c : Construct) :
    Phrase c.doc c.atoms ∨ c.doc = [] ∧ c.atoms = [] := by
  cases c
  case characteristics c => exact c.keywords_phrases.joined_or_nil .space
  case windowSpec w => exact w.parts_phrases.joined_or_nil .space
  case mergeClauses ws => exact (Phrases.map ws (·.phrase)).joined_or_nil .space
  case localName n => exact .inl n.phrase
  case keyword k => exact .inl (.keyword k)
  case columnConstraint c => exact .inl (ColumnConstraint.phrase c)
  case tableConstraint c => exact .inl (TableConstraint.phrase c)
  all_goals
    rename_i part
    exact .inl part.phrase

end SqlTree
