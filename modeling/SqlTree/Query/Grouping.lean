import SqlTree.Name

/-! The groups over which a query aggregates. -/
namespace SqlTree
open Doc

/-- Whether repetitions count. -/
inductive SetQuantifier where
  | all | distinct
  deriving DecidableEq

instance : Spelled SetQuantifier where
  keyword
    | .all => "ALL"
    | .distinct => "DISTINCT"

inductive GroupingElement where
  | columns (cs : List ColumnRef)
  | rollup (cs : List ColumnRef)
  | cube (cs : List ColumnRef)
  | sets (elements : List GroupingElement)
  /-- All rows in one group. -/
  | empty

namespace GroupingElement

/-- A column on its own needs no parentheses. -/
def columnsDoc : List ColumnRef → Doc
  | [c] => c.doc
  | cs => paren (required "grouping set" "column" (cs.map (·.doc)))

mutual

def doc : GroupingElement → Doc
  | .columns cs => columnsDoc cs
  | .rollup cs => text "ROLLUP" ++ space ++ paren (required "ROLLUP" "column" (cs.map (·.doc)))
  | .cube cs => text "CUBE" ++ space ++ paren (required "CUBE" "column" (cs.map (·.doc)))
  | .sets elements =>
    text "GROUPING SETS" ++ space
      ++ paren (required "GROUPING SETS" "grouping element" (docs elements))
  | .empty => paren []

def docs : List GroupingElement → List Doc
  | [] => []
  | e :: es => doc e :: docs es

end

end GroupingElement

structure GroupBy where
  quantifier : Option SetQuantifier := none
  elements : List GroupingElement

def GroupBy.doc (g : GroupBy) : Doc :=
  text "GROUP BY" ++ space ++ optional g.quantifier (keyword · ++ space)
    ++ required "GROUP BY" "grouping element" (GroupingElement.docs g.elements)

end SqlTree
