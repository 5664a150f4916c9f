import SqlTree.Proofs.Changes
import SqlTree.Proofs.Join

/-! Aliases, marks and samples that are given to a table reference one call at a time. The last one
of each kind counts, wherever it stands between the others. -/
namespace SqlTree
open Changes Doc

namespace TableRef

inductive Field where
  | «alias» | only | sample
  deriving DecidableEq

namespace Change

def field : Change → Field
  | .«alias» _ => .«alias»
  | only => .only
  | sample _ => .sample

def alias? : Change → Option Alias
  | .«alias» a => some a
  | _ => none

def isOnly : Change → Bool
  | only => true
  | _ => false

def sample? : Change → Option TableSample
  | sample s => some s
  | _ => none

variable {k : Change}

private theorem alias?_eq_none (h : k.field ≠ .«alias») : k.alias? = none := by
  cases k <;> first | rfl | exact absurd rfl h

private theorem isOnly_eq_false (h : k.field ≠ .only) : k.isOnly = false := by
  cases k <;> first | rfl | exact absurd rfl h

private theorem sample?_eq_none (h : k.field ≠ .sample) : k.sample? = none := by
  cases k <;> first | rfl | exact absurd rfl h

end Change

/-- The reference under a new alias, with the mark of a table set and with a new sample. Without a
new one the old one stays, and a join has none. -/
def given (t : TableRef) (label : Option Alias) (only : Bool) (sample : Option TableSample) :
    TableRef :=
  match t with
  | .table t =>
    .table { t with
      only := t.only || only
      «alias» := label.or t.alias
      sample := sample.or t.sample }
  | .derived query old => .derived query (label.or old)
  | .nested inner old => .nested inner (label.or old)
  | join => label.elim join fun a => .nested join (some a)

section
variable (t : TableRef) (label : Option Alias) (only : Bool) (sample : Option TableSample)

private theorem given_nothing : t.given none false none = t := by
  cases t <;> simp [given]

/-- A join that has taken an alias is in parentheses, so the next one replaces it. -/
private theorem change_given (k : Change) :
    (t.given label only sample).change k =
      t.given (k.alias?.or label) (only || k.isOnly) (k.sample?.or sample) := by
  cases t <;> cases k <;> cases label <;>
    simp [given, change, withAlias, withOnly, withSample, Change.alias?, Change.isOnly,
      Change.sample?]

/-- Only named tables have a mark and a sample. -/
private theorem given_of_ne_table (h : ∀ n, t ≠ .table n) :
    t.given label only sample = t.given label false none := by
  cases t with
  | table n => exact absurd rfl (h n)
  | _ => rfl

private theorem given_of_isJoin (h : t.isJoin = true) (a : Alias) :
    t.given (some a) only sample = .nested t (some a) := by
  cases t with
  | cross | natural | qualified => rfl
  | table | derived | nested => cases h

end

section
variable (t : TableRef) {calls calls' : List Change}

private theorem foldl_change (calls : List Change) :
    calls.foldl change t =
      t.given (last? Change.alias? calls) (calls.any (·.isOnly)) (last? Change.sample? calls) := by
  induction calls using List.reverseRecOn with
  | nil => exact t.given_nothing.symm
  | append_singleton calls k ih =>
    rw [List.foldl_concat, ih, change_given, last?_concat, last?_concat]
    simp

private theorem any_isOnly_congr (h : SameByField Change.field calls calls') :
    calls.any (·.isOnly) = calls'.any (·.isOnly) := by
  have hfilter : ∀ calls : List Change,
      (calls.filter (·.field = .only)).any (·.isOnly) = calls.any (·.isOnly) := by
    intro calls
    rw [List.any_filter]
    congr 1
    funext k
    by_cases hk : k.field = .only
    · simp [hk]
    · simp [hk, Change.isOnly_eq_false hk]
  rw [← hfilter, h .only, hfilter]

private theorem foldl_change_congr (h : SameByField Change.field calls calls') :
    calls'.foldl change t = calls.foldl change t := by
  rw [foldl_change, foldl_change, h.last? fun _ => Change.alias?_eq_none, any_isOnly_congr h,
    h.last? fun _ => Change.sample?_eq_none]

/-- Without the calls that set a mark or a sample, all but a named table is the same. -/
private theorem foldl_change_of_ne_table (h : ∀ n, t ≠ .table n) (calls : List Change) :
    calls.foldl change t = (calls.filter (·.field = .«alias»)).foldl change t := by
  have hlast : last? Change.alias? (calls.filter (·.field = .«alias»)) =
      last? Change.alias? calls := by
    rw [last?, last?, filterMap_filter_field fun _ => Change.alias?_eq_none]
  rw [foldl_change, foldl_change, given_of_ne_table t _ _ _ h, hlast,
    ← given_of_ne_table t _ _ _ h]

/-- The second of two calls of one kind wins. -/
private theorem change_change {k k' : Change} (h : k.field = k'.field) :
    (t.change k).change k' = t.change k' := by
  cases t <;> cases k <;> cases k' <;> first | rfl | cases h

end

/-- What the alias of a table says. -/
def aliasText (c : Setting) (a : Alias) : String :=
  "AS" ++ c.whitespace.toString ++ a.name.escape c.quote c.alphabet ++
    (afterParens (a.columns.map ident)).spell c

private theorem render_nested (t : TableRef) (a : Alias) (c : Setting) :
    (nested t (some a)).doc.render c =
      (t.doc.render c).map fun sql =>
        "(" ++ sql ++ ")" ++ c.whitespace.toString ++ aliasText c a := by
  have hspell : a.doc.spell c = aliasText c a := by
    simp only [Alias.doc, aliasText, spell_append, spell_text, spell_space, spell_ident]
  have hdoc : (nested t (some a)).doc = text "(" ++ t.doc ++ text ")" ++ (space ++ a.doc) := rfl
  rw [render_eq, render_eq, hdoc]
  cases h : t.doc.failure? with
  | some e => simp [h, Except.map]
  | none =>
    simp only [failure?_append, failure?_text, failure?_space, Alias.failure?_doc, h,
      Option.or_none, Option.elim_none, Except.map, spell_append, spell_text, spell_space, hspell,
      String.append_assoc]

/-- Calls on a table reference leave the last alias, the mark if one of them sets it and the last
sample. Calls of different kinds may change places, and of two calls of one kind the second wins.
Only a named table takes a mark or a sample. A join that is given an alias stands in parentheses in
front of the last one, and nothing inside of the parentheses is changed. -/
theorem calls_last_wins (t : TableRef) (calls : List Change) :
    calls.foldl change t =
      t.given (last? Change.alias? calls) (calls.any (·.isOnly)) (last? Change.sample? calls) ∧
    (∀ calls', SameByField Change.field calls calls' →
      calls'.foldl change t = calls.foldl change t) ∧
    (∀ k k' : Change, k.field = k'.field → (t.change k).change k' = t.change k') ∧
    ((∀ n, t ≠ .table n) →
      calls.foldl change t = (calls.filter (·.field = .«alias»)).foldl change t) ∧
    ∀ a, t.isJoin = true → last? Change.alias? calls = some a →
      calls.foldl change t = .nested t (some a) ∧
      ∀ c, (calls.foldl change t).doc.render c =
        (t.doc.render c).map fun sql =>
          "(" ++ sql ++ ")" ++ c.whitespace.toString ++ aliasText c a := by
  refine ⟨foldl_change t calls, fun _ => foldl_change_congr t, fun _ _ => change_change t,
    fun h => foldl_change_of_ne_table t h calls, ?_⟩
  intro a hjoin hlast
  have hnested : calls.foldl change t = .nested t (some a) := by
    rw [foldl_change, hlast, given_of_isJoin t _ _ hjoin]
  exact ⟨hnested, fun c => by rw [hnested, render_nested]⟩

/-- Two aliases with a mark and a sample between them, on a join and on a table. -/
theorem calls_last_wins_join :
    let table (name : String) : TableRef := ofName (.qualified { name := ⟨name⟩ })
    let joined : TableRef := .qualified (table "a") .inner (table "b") (.using [⟨"id"⟩])
    let first : Change := .«alias» { name := ⟨"j"⟩ }
    let last : Change := .«alias» { name := ⟨"k"⟩ }
    let sample : Change := .sample { method := .system, percent := .raw "10" }
    let calls : List Change := [first, .only, sample, last]
    let swapped : List Change := [sample, first, last, .only]
    joined.isJoin = true ∧ (∀ n, joined ≠ .table n) ∧
      last? Change.alias? calls = some { name := ⟨"k"⟩ } ∧ SameByField Change.field calls swapped ∧
      calls.foldl change joined = .nested joined (some { name := ⟨"k"⟩ }) ∧
      (calls.foldl change joined).doc.render .default = .ok "(a JOIN b USING (id)) AS k" ∧
      calls.foldl change joined = (joined.change first).change last ∧
      (joined.change first).change last = joined.change last ∧
      swapped.foldl change (table "a") = calls.foldl change (table "a") ∧
      (calls.foldl change (table "a")).doc.render .default =
        .ok "ONLY a AS k TABLESAMPLE SYSTEM (10)" := by
  intro table joined first last sample calls swapped
  have hne : ∀ n, joined ≠ .table n := by simp [joined]
  have hlast : last? Change.alias? calls = some { name := ⟨"k"⟩ } := by rfl
  have hswapped : SameByField Change.field calls swapped := by
    intro f
    cases f <;> rfl
  obtain ⟨-, -, htwice, halias, hjoin⟩ := calls_last_wins joined calls
  obtain ⟨-, hcongr, -⟩ := calls_last_wins (table "a") calls
  obtain ⟨hnested, hrender⟩ := hjoin _ rfl hlast
  refine ⟨rfl, hne, hlast, hswapped, hnested, ?_, halias hne, htwice first last rfl,
    hcongr swapped hswapped, rfl⟩
  rw [hrender]
  rfl

end TableRef

end SqlTree
