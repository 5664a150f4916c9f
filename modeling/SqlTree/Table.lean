import SqlTree.Table.Element

/-! The contents of tables: elements of their own or those of a type. -/
namespace SqlTree
open Doc

/-- A table whose columns are those of a type. -/
structure TypedTable where
  type : QualifiedName
  elements : List TypedElement := []

def TypedTable.doc (t : TypedTable) : Doc :=
  text "OF" ++ space ++ t.type.doc
    ++ if t.elements.isEmpty then [] else space ++ block (t.elements.map (·.doc))

inductive TableContent where
  | elements (items : List TableElement)
  | typed (t : TypedTable)

namespace TableContent

def doc : TableContent → Doc
  | elements items => block (items.map (·.doc))
  | typed t => t.doc

def isEmpty : TableContent → Bool
  | elements items => items.isEmpty
  | typed _ => false

/-- An element of its own makes a typed table an untyped one. -/
def push (c : TableContent) (e : TableElement) : TableContent :=
  match c with
  | elements items => elements (items ++ [e])
  | typed _ => elements [e]

end TableContent
end SqlTree
