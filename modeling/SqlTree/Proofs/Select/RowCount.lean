import SqlTree.Proofs.Changes
import SqlTree.Proofs.Select

/-! The two clauses that count rows. A limit and a fetch are never given one right after the other,
but an offset between them leads from the one to the other, and nothing else does. -/
namespace SqlTree.Select
open Changes
variable {s s' : Select} {c : Call} {calls before behind : List Call} {items : List SelectItem}

namespace Call

def limit? : Call → Option UInt64
  | limit n => some n
  | _ => none

def fetch? : Call → Option Fetch
  | fetch f => some f
  | _ => none

private theorem limit?_eq_some_iff {n : UInt64} : c.limit? = some n ↔ c = .limit n := by
  cases c <;> simp [limit?]

private theorem fetch?_eq_some_iff {f : Fetch} : c.fetch? = some f ↔ c = .fetch f := by
  cases c <;> simp [fetch?]

private theorem limit_apply (q : Query) (c : Call) : (c.apply q).limit = c.limit?.or q.limit := by
  cases c <;> rfl

private theorem fetch_apply (q : Query) (c : Call) : (c.apply q).fetch = c.fetch?.or q.fetch := by
  cases c <;> rfl

/-- The only clause between a limit and a fetch. -/
private theorem exists_offset (hlimited : Stage.limited.rank < c.stage.rank)
    (hfetched : c.stage.rank < Stage.fetched.rank) : ∃ o, c = .offset o := by
  cases c with
  | offset o => exact ⟨o, rfl⟩
  | _ => simp [stage, Stage.rank] at hlimited hfetched

end Call

private theorem run?_cons (h : s.run? (c :: calls) = some s') :
    ∃ next, s.call? c = some next ∧ next.run? calls = some s' := by
  rw [run?, List.foldlM_cons] at h
  exact Option.bind_eq_some_iff.mp h

private theorem run?_append (h : s.run? (before ++ behind) = some s') :
    ∃ middle, s.run? before = some middle ∧ middle.run? behind = some s' := by
  rw [run?, List.foldlM_append] at h
  exact Option.bind_eq_some_iff.mp h

private theorem query_run (h : s.run? calls = some s') :
    s'.query = calls.foldl Call.apply s.query := by
  induction calls generalizing s with
  | nil =>
    obtain rfl : s = s' := Option.some.inj h
    rfl
  | cons c calls ih =>
    obtain ⟨next, hcall, hrun⟩ := run?_cons h
    obtain ⟨-, rfl⟩ := call?_eq_some_iff.mp hcall
    exact ih hrun

private theorem rank_le_run (h : s.run? calls = some s') : s.stage.rank ≤ s'.stage.rank := by
  induction calls generalizing s with
  | nil =>
    obtain rfl : s = s' := Option.some.inj h
    exact Nat.le_refl _
  | cons c calls ih =>
    obtain ⟨next, hcall, hrun⟩ := run?_cons h
    obtain ⟨hmem, rfl⟩ := call?_eq_some_iff.mp hcall
    exact (Call.rank_le_of_mem_admittedIn hmem).trans (ih hrun)

/-- Each call of a run is admitted at a stage behind the first one and leads to one before the last.
-/
private theorem exists_admitted_of_mem (h : s.run? calls = some s') (hc : c ∈ calls) :
    ∃ t ∈ c.admittedIn, s.stage.rank ≤ t.rank ∧ c.stage.rank ≤ s'.stage.rank := by
  obtain ⟨before, behind, rfl⟩ := List.append_of_mem hc
  obtain ⟨middle, hbefore, hrest⟩ := run?_append h
  obtain ⟨next, hcall, hbehind⟩ := run?_cons hrest
  obtain ⟨hmem, rfl⟩ := call?_eq_some_iff.mp hcall
  exact ⟨middle.stage, hmem, rank_le_run hbefore, rank_le_run hbehind⟩

private theorem rank_le_of_mem_run (h : s.run? calls = some s') (hc : c ∈ calls) :
    s.stage.rank ≤ c.stage.rank ∧ c.stage.rank ≤ s'.stage.rank := by
  obtain ⟨t, hmem, hfirst, hlast⟩ := exists_admitted_of_mem h hc
  exact ⟨hfirst.trans (Call.rank_le_of_mem_admittedIn hmem), hlast⟩

private theorem rank_lt_of_mem_run (h : s.run? calls = some s') (hc : c ∈ calls)
    (hclause : c.stage ≠ .projected) : s.stage.rank < c.stage.rank := by
  obtain ⟨t, hmem, hfirst, -⟩ := exists_admitted_of_mem h hc
  exact Nat.lt_of_le_of_lt hfirst (Call.rank_lt_of_mem_admittedIn hmem hclause)

/-- A clause that is given at all is given once. -/
private theorem last?_eq_some_iff_mem {α : Type} {given? : Call → Option α} {give : α → Call}
    (t : Stage) (ht : t ≠ .projected) (hstage : ∀ a, (give a).stage = t)
    (hgive : ∀ c a, given? c = some a ↔ c = give a) (h : s.run? calls = some s') (a : α) :
    last? given? calls = some a ↔ give a ∈ calls := by
  constructor
  · intro hlast
    obtain ⟨c, hc, hgiven⟩ := List.mem_filterMap.mp (List.mem_of_getLast? hlast)
    exact (hgive c a).mp hgiven ▸ hc
  · intro hc
    obtain ⟨before, behind, rfl⟩ := List.append_of_mem hc
    obtain ⟨middle, -, hrest⟩ := run?_append h
    obtain ⟨next, hcall, hbehind⟩ := run?_cons hrest
    obtain ⟨-, rfl⟩ := call?_eq_some_iff.mp hcall
    have hlater : behind.filterMap given? = [] := by
      refine List.filterMap_eq_nil_iff.mpr fun d hd => ?_
      cases hgiven : given? d with
      | none => rfl
      | some b =>
        have hd' : d.stage = t := (hgive d b).mp hgiven ▸ hstage b
        have hrank := rank_lt_of_mem_run hbehind hd (hd' ▸ ht)
        rw [hstage a, hd'] at hrank
        exact absurd hrank (Nat.lt_irrefl _)
    simp [last?, hlater, (hgive _ a).mpr rfl]

section
variable (hrun : (ofItems items).run? calls = some s)
include hrun

private theorem limit_eq_some_iff (n : UInt64) : s.query.limit = some n ↔ .limit n ∈ calls := by
  have hlimit : s.query.limit = last? Call.limit? calls := by
    rw [query_run hrun]
    exact foldl_given Call.apply calls _ Query.limit Call.limit? rfl Call.limit_apply
  rw [hlimit]
  exact last?_eq_some_iff_mem .limited (by decide) (fun _ => rfl)
    (fun _ _ => Call.limit?_eq_some_iff) hrun n

private theorem fetch_eq_some_iff (f : Fetch) : s.query.fetch = some f ↔ .fetch f ∈ calls := by
  have hfetch : s.query.fetch = last? Call.fetch? calls := by
    rw [query_run hrun]
    exact foldl_given Call.apply calls _ Query.fetch Call.fetch? rfl Call.fetch_apply
  rw [hfetch]
  exact last?_eq_some_iff_mem .fetched (by decide) (fun _ => rfl)
    (fun _ _ => Call.fetch?_eq_some_iff) hrun f

end

/-- From a limit no call leads to a fetch directly, and one offset is all that fits between them. -/
private theorem exists_offset_between {q : Query} {f : Fetch} {between : List Call}
    (hrun : run? ⟨.limited, q⟩ between = some s) (hfetch : s.stage ∈ (Call.fetch f).admittedIn) :
    ∃ o, between = [.offset o] := by
  have hfetched : s.stage.rank < Stage.fetched.rank :=
    Call.rank_lt_of_mem_admittedIn hfetch (by simp [Call.stage])
  have hoffset : ∀ c ∈ between, ∃ o, c = .offset o := by
    intro c hc
    obtain ⟨hfirst, hlast⟩ := rank_le_of_mem_run hrun hc
    have hclause : c.stage ≠ .projected := by
      intro hstage
      rw [hstage] at hfirst
      exact Nat.not_succ_le_zero _ hfirst
    exact Call.exists_offset (rank_lt_of_mem_run hrun hc hclause)
      (Nat.lt_of_le_of_lt hlast hfetched)
  cases between with
  | nil =>
    obtain rfl : ⟨.limited, q⟩ = s := Option.some.inj hrun
    exact absurd hfetch (by simp [Call.admittedIn])
  | cons c between =>
    obtain ⟨o, rfl⟩ := hoffset c List.mem_cons_self
    obtain ⟨next, hcall, hrest⟩ := run?_cons hrun
    obtain ⟨-, rfl⟩ := call?_eq_some_iff.mp hcall
    cases between with
    | nil => exact ⟨o, rfl⟩
    | cons d between =>
      obtain ⟨o', rfl⟩ := hoffset d (by simp)
      have hskipped := rank_lt_of_mem_run hrest List.mem_cons_self (by simp [Call.stage])
      exact absurd hskipped (Nat.lt_irrefl _)

/-- A query carries a limit and a fetch exactly when the two were given with one offset between
them. -/
theorem limit_and_fetch_iff (hrun : (ofItems items).run? calls = some s) (n : UInt64) (f : Fetch) :
    s.query.limit = some n ∧ s.query.fetch = some f ↔
      ∃ o, [.limit n, .offset o, .fetch f] <:+: calls := by
  rw [limit_eq_some_iff hrun, fetch_eq_some_iff hrun]
  constructor
  · rintro ⟨hlimit, hfetch⟩
    obtain ⟨before, rest, rfl⟩ := List.append_of_mem hlimit
    obtain ⟨start, hbefore, hrest⟩ := run?_append hrun
    obtain ⟨limited, hcall, hbehind⟩ := run?_cons hrest
    obtain ⟨hadmitted, rfl⟩ := call?_eq_some_iff.mp hcall
    have hstart : start.stage.rank < Stage.limited.rank :=
      Call.rank_lt_of_mem_admittedIn hadmitted (by simp [Call.stage])
    -- before the limit no stage is as late as that of the fetch
    have hlater : .fetch f ∈ rest := by
      rcases List.mem_append.mp hfetch with hearlier | hlater
      · have hrank : Stage.fetched.rank ≤ start.stage.rank :=
          (rank_le_of_mem_run hbefore hearlier).2
        exact absurd (Nat.lt_of_le_of_lt hrank hstart) (by decide)
      · exact (List.mem_cons.mp hlater).resolve_left (by simp)
    obtain ⟨between, behind, rfl⟩ := List.append_of_mem hlater
    obtain ⟨last, hbetween, hend⟩ := run?_append hbehind
    obtain ⟨fetched, hcall', -⟩ := run?_cons hend
    obtain ⟨o, rfl⟩ := exists_offset_between hbetween (call?_eq_some_iff.mp hcall').1
    exact ⟨o, before, behind, by simp⟩
  · rintro ⟨o, hcalls⟩
    exact ⟨hcalls.subset (by simp), hcalls.subset (by simp)⟩

/-- A query with both row counts, and the calls that led to it. -/
theorem limit_and_fetch_iff_both :
    (ofItems [.all]).run? [.limit 1, .offset { count := 2 }, .fetch { count := 3 }] =
      some
        { stage := .fetched
          query :=
            { items := [.all]
              limit := some 1
              offset := some { count := 2 }
              fetch := some { count := 3 } } } ∧
    ∃ o, [.limit 1, .offset o, .fetch { count := 3 }] <:+:
      [Call.limit 1, .offset { count := 2 }, .fetch { count := 3 }] := by
  have hrun : (ofItems [.all]).run? [.limit 1, .offset { count := 2 }, .fetch { count := 3 }] =
      some
        { stage := .fetched
          query :=
            { items := [.all]
              limit := some 1
              offset := some { count := 2 }
              fetch := some { count := 3 } } } := rfl
  exact ⟨hrun, (limit_and_fetch_iff hrun 1 { count := 3 }).mp ⟨rfl, rfl⟩⟩

/-- The stages do not keep the two row counts apart. -/
theorem limit_and_fetch_admitted :
    ¬ ∀ (items : List SelectItem) (calls : List Call) (s : Select),
      (ofItems items).run? calls = some s → ¬ (s.query.limit.isSome ∧ s.query.fetch.isSome) := by
  intro h
  exact h [.all] [.limit 1, .offset { count := 2 }, .fetch { count := 3 }] _ rfl ⟨rfl, rfl⟩

end SqlTree.Select
