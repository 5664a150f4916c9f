import SqlTree.Doc

/-! Columns that take their values from a sequence. -/
namespace SqlTree
open Doc

/-- A bound of `none` declares that there is no bound. -/
inductive SequenceOption where
  | startWith (n : Int64)
  | incrementBy (n : Int64)
  | maxValue (bound : Option Int64)
  | minValue (bound : Option Int64)
  | cycle (wraps : Bool)
  deriving DecidableEq

def SequenceOption.doc : SequenceOption → Doc
  | .startWith n => text "START WITH" ++ space ++ int n
  | .incrementBy n => text "INCREMENT BY" ++ space ++ int n
  | .maxValue (some n) => text "MAXVALUE" ++ space ++ int n
  | .maxValue none => text "NO MAXVALUE"
  | .minValue (some n) => text "MINVALUE" ++ space ++ int n
  | .minValue none => text "NO MINVALUE"
  | .cycle true => text "CYCLE"
  | .cycle false => text "NO CYCLE"

/-- Whether a statement may give a value of its own. -/
inductive Generated where
  | always | byDefault
  deriving DecidableEq

instance : Spelled Generated where
  keyword
    | .always => "ALWAYS"
    | .byDefault => "BY DEFAULT"

structure Identity where
  generated : Generated
  options : List SequenceOption := []
  deriving DecidableEq

namespace Identity

def addOption (i : Identity) (o : SequenceOption) : Identity :=
  { i with options := i.options ++ [o] }

def doc (i : Identity) : Doc :=
  text "GENERATED" ++ space ++ keyword i.generated ++ space ++ text "AS IDENTITY"
    ++ afterParens (i.options.map (·.doc))

end Identity
end SqlTree
