import SqlTree.Query.SortKey

/-! Windows: the rows around a row that a function looks at. -/
namespace SqlTree
open Doc

inductive FrameUnits where
  | rows | range | groups
  deriving DecidableEq

instance : Spelled FrameUnits where
  keyword
    | .rows => "ROWS"
    | .range => "RANGE"
    | .groups => "GROUPS"

inductive FrameExclusion where
  | currentRow | group | ties | noOthers
  deriving DecidableEq

instance : Spelled FrameExclusion where
  keyword
    | .currentRow => "EXCLUDE CURRENT ROW"
    | .group => "EXCLUDE GROUP"
    | .ties => "EXCLUDE TIES"
    | .noOthers => "EXCLUDE NO OTHERS"

inductive FrameBound where
  | unboundedPreceding
  | preceding (distance : Expr)
  | currentRow
  | following (distance : Expr)
  | unboundedFollowing

def FrameBound.doc : FrameBound → Doc
  | .unboundedPreceding => text "UNBOUNDED PRECEDING"
  | .preceding distance => distance.doc ++ space ++ text "PRECEDING"
  | .currentRow => text "CURRENT ROW"
  | .following distance => distance.doc ++ space ++ text "FOLLOWING"
  | .unboundedFollowing => text "UNBOUNDED FOLLOWING"

/-- Without a stop the frame ends at the current row. -/
structure WindowFrame where
  units : FrameUnits
  start : FrameBound
  stop : Option FrameBound := none
  exclusion : Option FrameExclusion := none

namespace WindowFrame

/-- The first rule on bounds that a frame breaks. -/
def problem? (f : WindowFrame) : Option Problem :=
  match f.start, f.stop with
  | .unboundedFollowing, _ => some .frameStartsUnbounded
  | _, some .unboundedPreceding => some .frameEndsUnbounded
  | .following _, none => some .frameStartsFollowing
  | _, _ => none

def boundsDoc (f : WindowFrame) : Doc :=
  match f.stop with
  | some stop =>
    text "BETWEEN" ++ space ++ f.start.doc ++ space ++ text "AND" ++ space ++ stop.doc
  | none => f.start.doc

def doc (f : WindowFrame) : Doc :=
  match f.problem? with
  | some problem => invalid "window frame" problem
  | none =>
    keyword f.units ++ space ++ f.boundsDoc ++ after f.exclusion keyword

end WindowFrame

structure WindowSpec where
  /-- A window that this one refines. -/
  existing : Option Ident := none
  partitionBy : List ColumnRef := []
  orderBy : List SortKey := []
  frame : Option WindowFrame := none

namespace WindowSpec

def parts (w : WindowSpec) : List Doc :=
  (w.existing.map ident).toList
    ++ (phrase "PARTITION BY" (w.partitionBy.map (·.doc))).toList
    ++ (phrase "ORDER BY" (w.orderBy.map (·.doc))).toList
    ++ (w.frame.map (·.doc)).toList

def doc (w : WindowSpec) : Doc :=
  spaced w.parts

end WindowSpec

structure WindowDef where
  name : Ident
  spec : WindowSpec

def WindowDef.doc (w : WindowDef) : Doc :=
  ident w.name ++ space ++ text "AS" ++ space ++ paren w.spec.doc

end SqlTree
