import SqlTree.Name
import SqlTree.Value

/-! Value expressions. They are written as they are built: no parentheses are added. -/
namespace SqlTree
open Doc

inductive Expr where
  | raw (text : String)
  | column (c : ColumnRef)
  | value (v : Value)
  | call (function : String) (arguments : List Expr)
  | binary (left : Expr) (operator : String) (right : Expr)
  | not (operand : Expr)
  | isNull (operand : Expr) (negated : Bool)
  | inList (operand : Expr) (values : List Expr)
  | nested (inner : Expr)
  | over (operand : Expr) (window : Ident)

namespace Expr

def eq (left right : Expr) : Expr := left.binary "=" right
def notEq (left right : Expr) : Expr := left.binary "<>" right
def lt (left right : Expr) : Expr := left.binary "<" right
def ltEq (left right : Expr) : Expr := left.binary "<=" right
def gt (left right : Expr) : Expr := left.binary ">" right
def gtEq (left right : Expr) : Expr := left.binary ">=" right
def like (left right : Expr) : Expr := left.binary "LIKE" right
def plus (left right : Expr) : Expr := left.binary "+" right
def and (left right : Expr) : Expr := left.binary "AND" right
def or (left right : Expr) : Expr := left.binary "OR" right

def between (operand low high : Expr) : Expr :=
  (operand.binary "BETWEEN" low).binary "AND" high

mutual

def doc : Expr → Doc
  | .raw s => verbatim s
  | .column c => c.doc
  | .value v => v.doc
  | .call function arguments => verbatim function ++ paren (list (docs arguments))
  | .binary left operator right =>
    left.doc ++ space ++ verbatim operator ++ space ++ right.doc
  | .not operand => text "NOT" ++ space ++ operand.doc
  | .isNull operand negated =>
    operand.doc ++ space ++ text "IS" ++ space
      ++ (if negated then text "NOT" ++ space else []) ++ text "NULL"
  | .inList operand values =>
    operand.doc ++ space ++ text "IN" ++ space ++ paren (required "IN" "value" (docs values))
  | .nested inner => paren inner.doc
  | .over operand window => operand.doc ++ space ++ text "OVER" ++ space ++ ident window

def docs : List Expr → List Doc
  | [] => []
  | e :: es => doc e :: docs es

end

end Expr
end SqlTree
