import SqlTree.Construct
import SqlTree.Renderer

/-! Trees put together by hand from constructs and from pieces of text. -/
namespace SqlTree

inductive Node where
  | construct (c : Construct)
  /-- Fixed pieces, and errors too. -/
  | leaf (d : Doc)
  /-- All parts in order. -/
  | sequence (parts : List Node)
  /-- All parts in order, or nothing if one of them is absent. -/
  | group (parts : List Node)
  | choice (condition : Bool) (parts otherwise : List Node)
  /-- A group that stands only beside a node that is present. -/
  | beside (guard : Node) (parts : List Node)
  | joined (items : List Node) (sep : Node)
  | list (items : List Node)
  | delimited (opening : Char) (parts : List Node) (closing : Char)
  | block (items : List Node)
  | required (node child : String) (value : Node)
  | optional (inner : Option Node)
  | either (inner : Node ⊕ Node)
  | absent

namespace Node

/-- Absent nodes write nothing, and a group they belong to is left out as a whole. -/
def isAbsent : Node → Bool
  | .construct c => c.isAbsent
  | .list items => items.isEmpty
  | .optional none => true
  | .optional (some n) => n.isAbsent
  | .either (.inl n) => n.isAbsent
  | .either (.inr n) => n.isAbsent
  | .absent => true
  | _ => false

/-- The documents of `parts`, unless a part is absent. -/
def guarded (parts : List Node) (docs : List Doc) : Doc :=
  if parts.any isAbsent then [] else docs.flatten

mutual

def doc : Node → Doc
  | .construct c => c.doc
  | .leaf d => d
  | .sequence parts => (docs parts).flatten
  | .group parts => guarded parts (docs parts)
  | .choice condition parts otherwise =>
    if condition then guarded parts (docs parts) else guarded otherwise (docs otherwise)
  | .beside guard parts => if guard.isAbsent then [] else guarded parts (docs parts)
  | .joined items sep => Doc.joined sep.doc (docs items)
  | .list items => Doc.list (docs items)
  | .delimited opening parts closing =>
    Doc.text opening.toString ++ guarded parts (docs parts) ++ Doc.text closing.toString
  | .block items => Doc.block (docs items)
  | .required node child value => if value.isAbsent then Doc.missing node child else value.doc
  | .optional none => []
  | .optional (some n) => n.doc
  | .either (.inl n) => n.doc
  | .either (.inr n) => n.doc
  | .absent => []

def docs : List Node → List Doc
  | [] => []
  | n :: ns => n.doc :: docs ns

end

def paren (parts : List Node) : Node := .delimited '(' parts ')'

def bracket (parts : List Node) : Node := .delimited '[' parts ']'

end Node

/-- Writing a node goes on from whatever was written before. -/
def Renderer.accept (r : Renderer) (n : Node) : Renderer :=
  r.write n.doc

end SqlTree
