import SqlTree.Node

/-! What can be asked of a renderer, one operation after the other. -/
namespace SqlTree

/-- A node as a renderer knows it. -/
structure Writer where
  isAbsent : Bool := false
  accept : Renderer → Renderer

def Node.writer (n : Node) : Writer where
  isAbsent := n.isAbsent
  accept r := r.accept n

namespace Renderer
variable (r : Renderer)

/-- All members in order, or nothing if one of them is absent. -/
def visit (group : List Writer) : Renderer :=
  if group.any (·.isAbsent) then r else group.foldl (fun r w => w.accept r) r

def visitIf (condition : Bool) (group : List Writer) : Renderer :=
  if condition then r.visit group else r

def visitIfElse (condition : Bool) (group otherwise : List Writer) : Renderer :=
  if condition then r.visit group else r.visit otherwise

def visitIfPresent (guard : Writer) (group : List Writer) : Renderer :=
  if guard.isAbsent then r else r.visit group

/-- Each item in turn, after `between` unless it is the first. -/
def interleave (items : List Writer) (between : Renderer → Renderer)
    (each : Writer → Renderer → Renderer) : Renderer :=
  items.zipIdx.foldl (fun r item => each item.1 (if item.2 > 0 then between r else r)) r

def join (items : List Writer) (sep : Writer) : Renderer :=
  r.interleave items sep.accept Writer.accept

def list (items : List Writer) : Renderer :=
  r.join items (Node.leaf .comma).writer

/-- An absent member leaves only the delimiters. -/
def delimited (opening : Char) (group : List Writer) (closing : Char) : Renderer :=
  ((r.write (.text opening.toString)).visit group).write (.text closing.toString)

def newLine : Renderer :=
  (r.write (.text "\n")).write (.text "\t")

def block (items : List Writer) : Renderer :=
  let written := (r.write (.text "(")).interleave items (·.write .separator)
    fun w r => w.accept r.newLine
  let ended := if items.isEmpty then written else written.write (.text "\n")
  ended.write (.text ")")

def require (node child : String) (value : Writer) : Renderer :=
  if value.isAbsent then r.write (.missing node child) else value.accept r

end Renderer

/-- Operations that write no node. -/
inductive Primitive where
  | whitespace
  | separator
  | newline
  | indent
  | token (c : Char)
  | int (n : Int64)
  | uint (n : UInt64)
  | float (x : Float)
  | string (s : String)
  | ident (i : Ident)
  | keyword (s : String)
  | raw (s : String)
  | fail (e : RenderError)

def Primitive.doc : Primitive → Doc
  | .whitespace => .space
  | .separator => .separator
  | .newline => .text "\n"
  | .indent => .text "\t"
  | .token c => .text c.toString
  | .int n => .int n
  | .uint n => .uint n
  | .float x => .float x
  | .string s => .literal s
  | .ident i => .ident i
  | .keyword s => .text s
  | .raw s => .verbatim s
  | .fail e => .fail e

inductive Operation where
  | primitive (p : Primitive)
  | accept (n : Node)
  | visit (group : List Node)
  | visitIf (condition : Bool) (group : List Node)
  | visitIfElse (condition : Bool) (group otherwise : List Node)
  | visitIfPresent (guard : Node) (group : List Node)
  | join (items : List Node) (sep : Node)
  | list (items : List Node)
  | delimited (opening : Char) (group : List Node) (closing : Char)
  | block (items : List Node)
  | require (node child : String) (value : Node)

namespace Node

/-- A part that may be missing. -/
def part {α : Type} (value : Option α) (f : α → Node) : Node := .optional (value.map f)

def items {α : Type} (as : List α) (f : α → Node) : Node := .list (as.map f)

def word (s : String) : Node := .leaf (.text s)

def spelled {α : Type} [Spelled α] (a : α) : Node := .leaf (Doc.keyword a)

def name (i : Ident) : Node := .leaf (.ident i)

end Node

namespace Operation

def paren (group : List Node) : Operation := .delimited '(' group ')'

def bracket (group : List Node) : Operation := .delimited '[' group ']'

def keyword (s : String) : Operation := .primitive (.keyword s)

def space : Operation := .primitive .whitespace

def token (c : Char) : Operation := .primitive (.token c)

def name (i : Ident) : Operation := .primitive (.ident i)

def fail (e : RenderError) : Operation := .primitive (.fail e)

def construct (c : Construct) : Operation := .accept (.construct c)

/-- A part and the space before it. -/
def after (n : Node) : Operation := .visit [.leaf .space, n]

/-- A part behind a keyword. -/
def clause (keyword : String) (n : Node) : Operation :=
  .visit [.leaf .space, .word keyword, .leaf .space, n]

/-- A list that may not be empty, between parentheses. -/
def requireParen (node child : String) (items : Node) : List Operation :=
  [.token '(', .require node child items, .token ')']

/-- Items that each follow a space. -/
def trailing (items : List Node) : List Operation :=
  [.visitIfPresent (.list items) [.leaf .space], .join items (.leaf .space)]

/-- A list between parentheses behind a space, unless it is empty. -/
def afterParens {α : Type} (as : List α) (f : α → Node) : List Operation :=
  if as.isEmpty then [] else [.space, .paren [.items as f]]

def given {α : Type} (value : Option α) (ops : α → List Operation) : List Operation :=
  value.elim [] ops

/-- The operations of each item, with `sep` between consecutive items. -/
def between (sep : Operation) (items : List (List Operation)) : List Operation :=
  [sep].intercalate items

/-- The operation as a part of a tree. -/
def node : Operation → Node
  | primitive p => .leaf p.doc
  | accept n => n
  | visit group => .group group
  | visitIf condition group => .choice condition group []
  | visitIfElse condition group otherwise => .choice condition group otherwise
  | visitIfPresent guard group => .beside guard group
  | join items sep => .joined items sep
  | list items => .list items
  | delimited opening group closing => .delimited opening group closing
  | block items => .block items
  | require node child value => .required node child value

end Operation

namespace Renderer

def perform (r : Renderer) : Operation → Renderer
  | .primitive p => r.write p.doc
  | .accept n => r.accept n
  | .visit group => r.visit (group.map Node.writer)
  | .visitIf condition group => r.visitIf condition (group.map Node.writer)
  | .visitIfElse condition group otherwise =>
    r.visitIfElse condition (group.map Node.writer) (otherwise.map Node.writer)
  | .visitIfPresent guard group => r.visitIfPresent guard.writer (group.map Node.writer)
  | .join items sep => r.join (items.map Node.writer) sep.writer
  | .list items => r.list (items.map Node.writer)
  | .delimited opening group closing => r.delimited opening (group.map Node.writer) closing
  | .block items => r.block (items.map Node.writer)
  | .require node child value => r.require node child value.writer

def run (r : Renderer) (ops : List Operation) : Renderer :=
  ops.foldl perform r

end Renderer

/-- A tree that does all operations in order. -/
def Node.performing (ops : List Operation) : Node :=
  .sequence (ops.map Operation.node)

end SqlTree
