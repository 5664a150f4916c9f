import Mathlib.Data.List.Basic
import SqlTree.Proofs.Rendering
import SqlTree.Query.Select

/-! Building a query only ever appends: stages follow the order of the clauses, so the parts behind
the stage that is reached are still empty. -/
namespace SqlTree
open Doc

namespace Select

namespace Stage

/-- The stages that a clause leads to, in the order in which clauses are written. -/
def clauses : List Stage :=
  [sourced, filtered, grouped, restricted, windowed, ordered, limited, skipped, fetched, locked]

def rank : Stage → Nat
  | projected => 0
  | sourced => 1
  | filtered => 2
  | grouped => 3
  | restricted => 4
  | windowed => 5
  | ordered => 6
  | limited => 7
  | skipped => 8
  | fetched => 9
  | locked => 10

private theorem clauses_split {t : Stage} (h : t ≠ projected) :
    clauses = clauses.filter (·.rank < t.rank) ++ t :: clauses.filter (t.rank < ·.rank) := by
  cases t with
  | projected => exact absurd rfl h
  | _ => rfl

end Stage

namespace Call

/-- The clause that a call gives. Quantifiers are no clauses, and neither are empty lists. -/
def clause? : Call → Option Doc
  | quantifier _ => none
  | tables ts => phrase "FROM" (TableRef.docs ts)
  | condition e => some (text "WHERE" ++ space ++ e.doc)
  | groupBy g => some g.doc
  | having e => some (text "HAVING" ++ space ++ e.doc)
  | windows ws => phrase "WINDOW" (ws.map (·.doc))
  | orderBy keys => phrase "ORDER BY" (keys.map (·.doc))
  | limit n => some (text "LIMIT" ++ space ++ uint n)
  | offset o => some o.doc
  | fetch f => some f.doc
  | lock l => some l.doc

/-- What a call adds to the text: a space and its clause, if it gives one. -/
def added (cfg : Setting) (c : Call) : Except RenderError String :=
  match c.clause? with
  | none => .ok ""
  | some d => do return cfg.whitespace.toString ++ (← d.render cfg)

def addition (c : Call) : Doc :=
  after c.clause? id

end Call

end Select

namespace Query

/-- What each stage contributes to the text of a query. -/
def part (q : Query) : Select.Stage → Doc
  | .projected => text "SELECT" ++ after q.quantifier keyword ++ space
      ++ required "SELECT" "select list" (q.items.map (·.doc))
  | .sourced => listClause "FROM" (TableRef.docs q.tables)
  | .filtered => clause "WHERE" q.condition (·.doc)
  | .grouped => after q.groupBy (·.doc)
  | .restricted => clause "HAVING" q.having (·.doc)
  | .windowed => listClause "WINDOW" (q.windows.map (·.doc))
  | .ordered => listClause "ORDER BY" (q.orderBy.map (·.doc))
  | .limited => clause "LIMIT" q.limit uint
  | .skipped => after q.offset (·.doc)
  | .fetched => after q.fetch (·.doc)
  | .locked => after q.lock (·.doc)

/-- All clauses of a query. -/
def tail (q : Query) : Doc :=
  Select.Stage.clauses.flatMap q.part

private theorem doc_eq_part_append_tail (q : Query) : q.doc = q.part .projected ++ q.tail := by
  obtain ⟨quantifier, items, tables, condition, groupBy, having, windows, orderBy, limit, offset,
    fetch, lock⟩ := q
  simp [doc, tail, part, Select.Stage.clauses]

private theorem tail_eq_split (q : Query) {t : Select.Stage} (h : t ≠ .projected) :
    q.tail = (Select.Stage.clauses.filter (·.rank < t.rank)).flatMap q.part ++
      (q.part t ++ (Select.Stage.clauses.filter (t.rank < ·.rank)).flatMap q.part) := by
  have hsplit := congrArg (List.flatMap q.part) (Select.Stage.clauses_split h)
  rwa [List.flatMap_append, List.flatMap_cons] at hsplit

end Query

namespace Select
variable {s s' : Select} {c : Call} {calls : List Call} {q : Query}

namespace Call

private theorem addition_render (cfg : Setting) (c : Call) :
    c.addition.render cfg = c.added cfg := by
  unfold addition added
  cases c.clause? with
  | none => simp [after, Doc.optional, render_eq]
  | some d =>
    have hspace : space.render cfg = .ok cfg.whitespace.toString := by simp [render_eq]
    have hafter : after (some d) id = space ++ d := rfl
    rw [hafter, render_append, hspace]
    rfl

/-- A call gives the part of its own stage. -/
private theorem part_apply_self (h : c.stage ≠ .projected) :
    (c.apply q).part c.stage = c.addition := by
  cases c with
  | quantifier _ => exact absurd rfl h
  | _ => rfl

private theorem part_apply_of_ne {t : Stage} (h : t ≠ c.stage) : (c.apply q).part t = q.part t := by
  cases c <;> cases t <;> first | rfl | exact absurd rfl h

private theorem items_apply (c : Call) (q : Query) : (c.apply q).items = q.items := by
  cases c <;> rfl

private theorem addition_eq_nil (h : c.stage = .projected) : c.addition = [] := by
  cases c with
  | quantifier _ => rfl
  | _ => cases h

/-- Only empty lists add nothing. -/
private theorem clause?_eq_none_iff (h : c.stage ≠ .projected) :
    c.clause? = none ↔ c = .tables [] ∨ c = .windows [] ∨ c = .orderBy [] := by
  have hphrase : ∀ (k : String) (ds : List Doc), phrase k ds = none ↔ ds = [] := by
    intro k ds
    cases ds <;> simp [phrase]
  cases c with
  | quantifier _ => exact absurd rfl h
  | tables ts => cases ts <;> simp [clause?, hphrase, TableRef.docs]
  | windows ws => simp [clause?, hphrase]
  | orderBy keys => simp [clause?, hphrase]
  | _ => simp [clause?]

/-- No call leads back, and every clause leads further. -/
theorem rank_lt_of_mem_admittedIn {t : Stage} (ht : t ∈ c.admittedIn) (h : c.stage ≠ .projected) :
    t.rank < c.stage.rank := by
  cases c with
  | quantifier _ => exact absurd rfl h
  | _ => cases t <;> simp [admittedIn] at ht <;> simp [stage, Stage.rank]

theorem rank_le_of_mem_admittedIn {t : Stage} (ht : t ∈ c.admittedIn) :
    t.rank ≤ c.stage.rank := by
  by_cases h : c.stage = .projected
  · cases c with
    | quantifier _ =>
      obtain rfl : t = .projected := List.mem_singleton.mp ht
      exact Nat.le_refl _
    | _ => cases h
  · exact Nat.le_of_lt (rank_lt_of_mem_admittedIn ht h)

end Call

theorem call?_eq_some_iff :
    s.call? c = some s' ↔ s.stage ∈ c.admittedIn ∧ s' = ⟨c.stage, c.apply s.query⟩ := by
  by_cases h : s.stage ∈ c.admittedIn
  · simp [call?, h, eq_comm]
  · simp [call?, h]

/-- The parts behind the stage that is reached are empty. -/
def Settled (s : Select) : Prop :=
  ∀ t : Stage, s.stage.rank < t.rank → s.query.part t = []

private theorem ofItems_settled (items : List SelectItem) : (ofItems items).Settled := by
  intro t ht
  cases t with
  | projected => exact absurd ht (Nat.lt_irrefl _)
  | _ => rfl

private theorem Settled.call (hs : s.Settled) (h : s.call? c = some s') : s'.Settled := by
  obtain ⟨hmem, rfl⟩ := call?_eq_some_iff.mp h
  intro t ht
  have hne : t ≠ c.stage := by
    rintro rfl
    exact Nat.lt_irrefl _ ht
  have hle : s.stage.rank ≤ c.stage.rank := Call.rank_le_of_mem_admittedIn hmem
  rw [Call.part_apply_of_ne hne]
  exact hs t (Nat.lt_of_le_of_lt hle ht)

private theorem Settled.later_eq_nil (hs : s.Settled) {t : Stage} (ht : s.stage.rank ≤ t.rank) :
    (Stage.clauses.filter (t.rank < ·.rank)).flatMap s.query.part = [] := by
  refine List.flatMap_eq_nil_iff.mpr fun u hu => ?_
  have hrank : t.rank < u.rank := by simpa using (List.mem_filter.mp hu).2
  exact hs u (Nat.lt_of_le_of_lt ht hrank)

/-- Earlier parts stay as they are, the part of the call was empty and so are all later ones. -/
private theorem Settled.tail_call (hs : s.Settled) (h : s.call? c = some s') :
    s'.query.tail = s.query.tail ++ c.addition := by
  have hs' : s'.Settled := hs.call h
  obtain ⟨hmem, rfl⟩ := call?_eq_some_iff.mp h
  by_cases hq : c.stage = .projected
  · have hpart : ∀ t ∈ Stage.clauses, (c.apply s.query).part t = s.query.part t := by
      intro t ht
      refine Call.part_apply_of_ne ?_
      rintro rfl
      rw [hq] at ht
      exact absurd ht (by decide)
    rw [Call.addition_eq_nil hq, List.append_nil, Query.tail, Query.tail,
      List.flatMap_congr hpart]
  · have hrank : s.stage.rank < c.stage.rank := Call.rank_lt_of_mem_admittedIn hmem hq
    have hbefore : ∀ t ∈ Stage.clauses.filter (·.rank < c.stage.rank),
        (c.apply s.query).part t = s.query.part t := by
      intro t ht
      refine Call.part_apply_of_ne ?_
      rintro rfl
      simp at ht
    have hempty : s.query.part c.stage = [] := hs c.stage hrank
    have hlater := hs.later_eq_nil (Nat.le_of_lt hrank)
    have hlater' := hs'.later_eq_nil (Nat.le_refl c.stage.rank)
    rw [Query.tail_eq_split _ hq, Query.tail_eq_split _ hq, List.flatMap_congr hbefore, hempty,
      hlater, hlater', Call.part_apply_self hq]
    simp

/-- A whole run appends what its calls add, in the order of the calls. -/
private theorem Settled.tail_run (hs : s.Settled) (h : s.run? calls = some s') :
    s'.Settled ∧ s'.query.tail = s.query.tail ++ calls.flatMap Call.addition ∧
      s'.query.items = s.query.items := by
  induction calls generalizing s with
  | nil =>
    obtain rfl : s = s' := Option.some.inj h
    exact ⟨hs, by simp, rfl⟩
  | cons c calls ih =>
    rw [run?, List.foldlM_cons] at h
    obtain ⟨s₁, hcall, hrun⟩ := Option.bind_eq_some_iff.mp h
    obtain ⟨hs', htail, hitems⟩ := ih (hs.call hcall) hrun
    have hitems₁ : s₁.query.items = s.query.items := by
      obtain ⟨-, rfl⟩ := call?_eq_some_iff.mp hcall
      exact c.items_apply s.query
    refine ⟨hs', ?_, hitems.trans hitems₁⟩
    rw [htail, hs.tail_call hcall, List.flatMap_cons, List.append_assoc]

/-- Clauses leave the select list and its quantifier alone. -/
private theorem Settled.doc_call (hs : s.Settled) (h : s.call? c = some s')
    (hc : c.stage ≠ .projected) : s'.query.doc = s.query.doc ++ c.addition := by
  have htail := hs.tail_call h
  obtain ⟨-, rfl⟩ := call?_eq_some_iff.mp h
  have hhead : (c.apply s.query).part .projected = s.query.part .projected :=
    Call.part_apply_of_ne (Ne.symm hc)
  rw [Query.doc_eq_part_append_tail, Query.doc_eq_part_append_tail, hhead, htail,
    List.append_assoc]

private theorem doc_run {items : List SelectItem} (h : (ofItems items).run? calls = some s) :
    s.query.doc = ({ quantifier := s.query.quantifier, items } : Query).doc ++
      calls.flatMap Call.addition := by
  obtain ⟨-, htail, hitems⟩ := (ofItems_settled items).tail_run h
  have hstart : ∀ quantifier : Option SetQuantifier, Query.tail { quantifier, items } = [] :=
    fun _ => rfl
  have hhead : s.query.part .projected =
      Query.part { quantifier := s.query.quantifier, items } .projected := by
    rw [Query.part, Query.part, hitems]
    rfl
  rw [Query.doc_eq_part_append_tail, Query.doc_eq_part_append_tail, hhead, htail, hstart,
    List.append_nil]
  rfl

private theorem render_additions (cfg : Setting) (calls : List Call) :
    Doc.render cfg (calls.flatMap Call.addition) =
      String.join <$> calls.mapM (Call.added cfg) := by
  induction calls with
  | nil => rfl
  | cons c calls ih =>
    rw [List.flatMap_cons, render_append, Call.addition_render, ih, List.mapM_cons]
    cases c.added cfg with
    | error e => rfl
    | ok text =>
      cases calls.mapM (Call.added cfg) with
      | error e => rfl
      | ok texts => simp [bind, Except.bind, pure, Except.pure, Functor.map, Except.map]

/-- Each clause call appends to the text and changes nothing before it, whatever was built so far.
So the text of a run is the select list followed by the clauses in the order of the calls. -/
theorem render_call {items : List SelectItem} (hrun : (ofItems items).run? calls = some s)
    (hcall : s.call? c = some s') (hc : c.stage ≠ .projected) (cfg : Setting) :
    s'.query.doc.render cfg = (do return (← s.query.doc.render cfg) ++ (← c.added cfg)) ∧
    s'.query.doc.render cfg = (do
      let start ← ({ quantifier := s.query.quantifier, items } : Query).doc.render cfg
      let clauses ← (calls ++ [c]).mapM (Call.added cfg)
      return start ++ String.join clauses) ∧
    (c.clause? = none ↔ c = .tables [] ∨ c = .windows [] ∨ c = .orderBy []) := by
  obtain ⟨hs, -, -⟩ := (ofItems_settled items).tail_run hrun
  have hdoc : s'.query.doc = s.query.doc ++ c.addition := hs.doc_call hcall hc
  refine ⟨?_, ?_, Call.clause?_eq_none_iff hc⟩
  · rw [hdoc, render_append, Call.addition_render]
  · have hall : s'.query.doc = ({ quantifier := s.query.quantifier, items } : Query).doc ++
        (calls ++ [c]).flatMap Call.addition := by
      rw [hdoc, doc_run hrun, List.flatMap_append, List.append_assoc]
      simp
    rw [hall, render_append, render_additions]
    cases Doc.render cfg ({ quantifier := s.query.quantifier, items } : Query).doc with
    | error e => rfl
    | ok start => cases (calls ++ [c]).mapM (Call.added cfg) <;> rfl

/-- The empty list of tables leaves no trace, and the limit comes after the condition. -/
theorem render_limit_call :
    (ofItems [.all]).run? [.tables [], .condition (.raw "x")] =
        some ⟨.filtered, { items := [.all], condition := some (.raw "x") }⟩ ∧
    Doc.render .default (Query.doc
      { items := [.all], condition := some (.raw "x"), limit := some 3 }) =
        .ok "SELECT * WHERE x LIMIT 3" := by
  have hrun : (ofItems [.all]).run? [.tables [], .condition (.raw "x")] =
      some ⟨.filtered, { items := [.all], condition := some (.raw "x") }⟩ := rfl
  have hcall : Select.call? ⟨.filtered, { items := [.all], condition := some (.raw "x") }⟩
      (.limit 3) =
      some ⟨.limited, { items := [.all], condition := some (.raw "x"), limit := some 3 }⟩ := rfl
  obtain ⟨happends, -, -⟩ := render_call hrun hcall (by decide) .default
  exact ⟨hrun, happends.trans rfl⟩

end Select
end SqlTree
