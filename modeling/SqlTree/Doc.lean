import SqlTree.Config
import SqlTree.RenderError

/-! Documents: what a node writes, before a configuration chooses its characters. -/
namespace SqlTree

inductive Piece where
  | whitespace
  | separator
  | ident (i : Ident)
  /-- The content of a string literal, without its quotes. -/
  | literal (content : String)
  /-- Keywords, digits and punctuation of SQL. -/
  | text (s : String)
  /-- Text of the user, taken as it is. -/
  | verbatim (s : String)
  /-- Writes nothing and says why the document has no text. -/
  | fail (e : RenderError)
  deriving DecidableEq

namespace Piece

def render (c : Setting) : Piece → String
  | whitespace => c.whitespace.toString
  | separator => c.separator.toString
  | ident i => i.escape c.quote c.alphabet
  | literal content => Text.Quoted.literal content
  | text s => s
  | verbatim s => s
  | fail _ => ""

def error? : Piece → Option RenderError
  | fail e => some e
  | _ => none

end Piece

abbrev Doc := List Piece

/-- Alternatives that SQL tells apart by a keyword. -/
class Spelled (α : Type) where
  keyword : α → String

namespace Doc

def space : Doc := [.whitespace]
def separator : Doc := [.separator]
def ident (i : Ident) : Doc := [.ident i]
def literal (content : String) : Doc := [.literal content]
def text (s : String) : Doc := [.text s]
def verbatim (s : String) : Doc := [.verbatim s]
def fail (e : RenderError) : Doc := [.fail e]
def missing (node child : String) : Doc := fail (.missing node child)
def invalid (node : String) (problem : Problem) : Doc := fail (.invalid node problem)

def keyword {α : Type} [Spelled α] (a : α) : Doc := text (Spelled.keyword a)

def int (n : Int64) : Doc := text (Decimal.integer n.toInt)
def uint (n : UInt64) : Doc := text n.toNat.repr

def float (x : Float) : Doc :=
  match Decimal.float x with
  | .ok digits => text digits
  | .error value => invalid "float" (.notFinite value)

/-- The items in order, with `sep` between consecutive ones. -/
def joined (sep : Doc) : List Doc → Doc
  | [] => []
  | d :: ds => d ++ ds.flatMap (sep ++ ·)

/-- Between the items of a list. -/
def comma : Doc := separator ++ space

def list (items : List Doc) : Doc := joined comma items

/-- Items with a space between them. -/
def spaced (items : List Doc) : Doc := joined space items

def paren (d : Doc) : Doc := text "(" ++ d ++ text ")"
def bracket (d : Doc) : Doc := text "[" ++ d ++ text "]"

/-- Each item on an indented line of its own. -/
def lines : List Doc → Doc
  | [] => []
  | d :: ds => line d ++ ds.flatMap (separator ++ line ·)
where
  line (d : Doc) : Doc := text "\n" ++ text "\t" ++ d

/-- The items as lines between parentheses. -/
def block (items : List Doc) : Doc :=
  paren (lines items ++ if items.isEmpty then [] else text "\n")

def optional {α : Type} (value : Option α) (f : α → Doc) : Doc :=
  match value with
  | none => []
  | some a => f a

/-- A part that follows a space, if it is there. -/
def after {α : Type} (value : Option α) (f : α → Doc) : Doc :=
  optional value (space ++ f ·)

/-- A part that follows a space, its keyword and a space, if it is there. -/
def clause {α : Type} (keyword : String) (value : Option α) (f : α → Doc) : Doc :=
  after value (text keyword ++ space ++ f ·)

/-- A list and its keyword. An empty list leaves out the keyword too. -/
def phrase (keyword : String) (items : List Doc) : Option Doc :=
  if items.isEmpty then none else some (text keyword ++ space ++ list items)

/-- A list that follows a space, its keyword and a space, unless it is empty. -/
def listClause (keyword : String) (items : List Doc) : Doc :=
  after (phrase keyword items) id

/-- Items that each follow a space. -/
def trailing (items : List Doc) : Doc :=
  items.flatMap (space ++ ·)

/-- A list in parentheses that follows a space, unless it is empty. -/
def afterParens (items : List Doc) : Doc :=
  if items.isEmpty then [] else space ++ paren (list items)

/-- A part that may not be missing. -/
def requiredPart {α : Type} (node child : String) (value : Option α) (f : α → Doc) : Doc :=
  match value with
  | none => missing node child
  | some a => f a

/-- A list that may not be empty. -/
def required (node child : String) (items : List Doc) : Doc :=
  if items.isEmpty then missing node child else list items

end Doc
end SqlTree
