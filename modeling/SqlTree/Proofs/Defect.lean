import SqlTree.Query

/-! The defects of a query, found by walking its tree. Children are visited in the order in which
they are written, and the first defect counts. -/
namespace SqlTree

/-- A list that may not be empty. -/
def absent? {α : Type} (node child : String) (items : List α) : Option RenderError :=
  if items.isEmpty then some (.missing node child) else none

/-- Infinities and NaN have no digits. -/
def floatDefect? (x : Float) : Option RenderError :=
  match Decimal.Binary64.ofFloat x with
  | .nan => some (.invalid "float" (.notFinite .nan))
  | .infinite negative => some (.invalid "float" (.notFinite (.infinite negative)))
  | .finite .. => none

namespace Value

mutual

def defect? : Value → Option RenderError
  | .float x => floatDefect? x
  | .row values => defectAll? values
  | _ => none

def defectAll? : List Value → Option RenderError
  | [] => none
  | v :: vs => v.defect?.or (defectAll? vs)

end

end Value

namespace Expr

mutual

def defect? : Expr → Option RenderError
  | .value v => v.defect?
  | .call _ arguments => defectAll? arguments
  | .binary left _ right => left.defect?.or right.defect?
  | .not operand => operand.defect?
  | .isNull operand _ => operand.defect?
  | .inList operand values =>
    operand.defect?.or ((absent? "IN" "value" values).or (defectAll? values))
  | .nested inner => inner.defect?
  | .over operand _ => operand.defect?
  | _ => none

def defectAll? : List Expr → Option RenderError
  | [] => none
  | e :: es => e.defect?.or (defectAll? es)

end

end Expr

def SelectItem.defect? : SelectItem → Option RenderError
  | .expr e _ => e.defect?
  | _ => none

def TableSample.defect? (s : TableSample) : Option RenderError :=
  s.percent.defect?.or (s.seed.bind (·.defect?))

def NamedTable.defect? (t : NamedTable) : Option RenderError :=
  t.sample.bind (·.defect?)

def JoinSpec.defect? : JoinSpec → Option RenderError
  | .on condition => condition.defect?
  | .using columns => absent? "USING" "column" columns

namespace GroupingElement

mutual

def defect? : GroupingElement → Option RenderError
  | .columns cs => absent? "grouping set" "column" cs
  | .rollup cs => absent? "ROLLUP" "column" cs
  | .cube cs => absent? "CUBE" "column" cs
  | .sets elements => (absent? "GROUPING SETS" "grouping element" elements).or (defectAll? elements)
  | .empty => none

def defectAll? : List GroupingElement → Option RenderError
  | [] => none
  | e :: es => e.defect?.or (defectAll? es)

end

end GroupingElement

def GroupBy.defect? (g : GroupBy) : Option RenderError :=
  (absent? "GROUP BY" "grouping element" g.elements).or (GroupingElement.defectAll? g.elements)

def SortKey.defect? (k : SortKey) : Option RenderError :=
  k.expr.defect?

def FrameBound.defect? : FrameBound → Option RenderError
  | .preceding distance => distance.defect?
  | .following distance => distance.defect?
  | _ => none

/-- A frame that breaks a rule is not looked into. -/
def WindowFrame.defect? (f : WindowFrame) : Option RenderError :=
  match f.start, f.stop with
  | .unboundedFollowing, _ => some (.invalid "window frame" .frameStartsUnbounded)
  | _, some .unboundedPreceding => some (.invalid "window frame" .frameEndsUnbounded)
  | .following _, none => some (.invalid "window frame" .frameStartsFollowing)
  | start, stop => start.defect?.or (stop.bind (·.defect?))

def WindowSpec.defect? (w : WindowSpec) : Option RenderError :=
  (w.orderBy.findSome? (·.defect?)).or (w.frame.bind (·.defect?))

def WindowDef.defect? (w : WindowDef) : Option RenderError :=
  w.spec.defect?

mutual

def TableRef.defect? : TableRef → Option RenderError
  | .table t => t.defect?
  | .derived query label =>
    query.defect?.or (absent? "derived table" "alias" label.toList)
  | .nested inner _ => inner.defect?
  | .cross left right => left.defect?.or right.defect?
  | .qualified left _ right spec => left.defect?.or (right.defect?.or spec.defect?)
  | .natural left _ right => left.defect?.or right.defect?

def TableRef.defectAll? : List TableRef → Option RenderError
  | [] => none
  | t :: ts => t.defect?.or (TableRef.defectAll? ts)

def Query.defect? : Query → Option RenderError
  | { items, tables, condition, groupBy, having, windows, orderBy, .. } =>
    (absent? "SELECT" "select list" items)
      |>.or (items.findSome? (·.defect?))
      |>.or (TableRef.defectAll? tables)
      |>.or (condition.bind (·.defect?))
      |>.or (groupBy.bind (·.defect?))
      |>.or (having.bind (·.defect?))
      |>.or (windows.findSome? (·.defect?))
      |>.or (orderBy.findSome? (·.defect?))

end

end SqlTree
