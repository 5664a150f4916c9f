import SqlTree.Query

/-! Queries built clause by clause, in the order in which SQL writes the clauses. -/
namespace SqlTree.Select

/-- The last clause that was given. -/
inductive Stage where
  | projected | sourced | filtered | grouped | restricted | windowed
  | ordered | limited | skipped | fetched | locked
  deriving DecidableEq

inductive Call where
  | quantifier (q : SetQuantifier)
  | tables (ts : List TableRef)
  | condition (e : Expr)
  | groupBy (g : GroupBy)
  | having (e : Expr)
  | windows (ws : List WindowDef)
  | orderBy (keys : List SortKey)
  | limit (n : UInt64)
  | offset (o : Offset)
  | fetch (f : Fetch)
  | lock (l : Lock)

namespace Call

/-- The stages in which a clause may be given. -/
def admittedIn : Call → List Stage
  | quantifier _ => [.projected]
  | tables _ => [.projected]
  | condition _ => [.sourced]
  | groupBy _ => [.sourced, .filtered]
  | having _ => [.sourced, .filtered, .grouped]
  | windows _ => [.sourced, .filtered, .grouped, .restricted]
  | orderBy _ => [.projected, .sourced, .filtered, .grouped, .restricted, .windowed]
  | limit _ => [.projected, .sourced, .filtered, .grouped, .restricted, .windowed, .ordered]
  | offset _ =>
    [.projected, .sourced, .filtered, .grouped, .restricted, .windowed, .ordered, .limited]
  | fetch _ =>
    [.projected, .sourced, .filtered, .grouped, .restricted, .windowed, .ordered, .skipped]
  | lock _ =>
    [.projected, .sourced, .filtered, .grouped, .restricted, .windowed, .ordered, .limited,
      .skipped, .fetched]

def stage : Call → Stage
  | quantifier _ => .projected
  | tables _ => .sourced
  | condition _ => .filtered
  | groupBy _ => .grouped
  | having _ => .restricted
  | windows _ => .windowed
  | orderBy _ => .ordered
  | limit _ => .limited
  | offset _ => .skipped
  | fetch _ => .fetched
  | lock _ => .locked

def apply (query : Query) : Call → Query
  | quantifier q => { query with quantifier := some q }
  | tables ts => { query with tables := ts }
  | condition e => { query with condition := some e }
  | groupBy g => { query with groupBy := some g }
  | having e => { query with having := some e }
  | windows ws => { query with windows := ws }
  | orderBy keys => { query with orderBy := keys }
  | limit n => { query with limit := some n }
  | offset o => { query with offset := some o }
  | fetch f => { query with fetch := some f }
  | lock l => { query with lock := some l }

/-- A lock against all other writers. -/
def forUpdate : Call := lock { mode := .update }

end Call
end Select

/-- A query under construction. -/
structure Select where
  stage : Select.Stage
  query : Query

namespace Select

def ofItems (items : List SelectItem) : Select :=
  { stage := .projected, query := { items } }

/-- All columns of a table. -/
def allFrom (t : TableRef) : Select :=
  { stage := .sourced, query := { items := [.all], tables := [t] } }

def call? (s : Select) (c : Call) : Option Select :=
  if s.stage ∈ c.admittedIn then some { stage := c.stage, query := c.apply s.query } else none

def run? (s : Select) (calls : List Call) : Option Select :=
  calls.foldlM call? s

/-- The start and what each call makes of it, if all calls are admitted. -/
def states? (s : Select) : List Call → Option (List Select)
  | [] => some [s]
  | c :: cs => do return s :: (← (← s.call? c).states? cs)

end Select
end SqlTree
