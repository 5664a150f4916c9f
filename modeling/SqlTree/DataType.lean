import SqlTree.DataType.DateTime

/-! Data types, which arrays, multisets and rows build from others. -/
namespace SqlTree
open Doc

mutual

inductive DataType where
  | character (t : CharacterType)
  | binary (t : BinaryType)
  | numeric (t : NumericType)
  | integer (t : IntegerType)
  | boolean (t : BooleanType)
  | dateTime (t : DateTimeType)
  | interval (t : IntervalType)
  | array (element : DataType) (capacity : Option UInt64)
  | multiset (element : DataType)
  | row (fields : List RowField)
  | named (name : QualifiedName)

structure RowField where
  name : Ident
  type : DataType

end

/-- Only arrays have a capacity. -/
def DataType.withCapacity (t : DataType) (n : UInt64) : DataType :=
  match t with
  | .array element _ => .array element (some n)
  | other => other

mutual

def DataType.doc : DataType → Doc
  | .character t => t.doc
  | .binary t => t.doc
  | .numeric t => t.doc
  | .integer t => keyword t
  | .boolean t => keyword t
  | .dateTime t => t.doc
  | .interval t => t.doc
  | .array element capacity =>
    element.doc ++ space ++ text "ARRAY" ++ bracket (optional capacity uint)
  | .multiset element => element.doc ++ space ++ text "MULTISET"
  | .row fields => text "ROW" ++ space ++ paren (required "ROW type" "field" (RowField.docs fields))
  | .named name => name.doc

def RowField.doc : RowField → Doc
  | { name, type } => ident name ++ space ++ type.doc

def RowField.docs : List RowField → List Doc
  | [] => []
  | f :: fs => f.doc :: RowField.docs fs

end

end SqlTree
