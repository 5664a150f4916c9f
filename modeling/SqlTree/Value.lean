import SqlTree.Doc

/-! Literal values. -/
namespace SqlTree
open Doc

inductive Value where
  | null
  /-- The default of the column that the value goes to. -/
  | default
  | bool (b : Bool)
  | int (n : Int64)
  | uint (n : UInt64)
  | float (x : Float)
  | text (s : String)
  | blob (bytes : List UInt8)
  | row (values : List Value)

def upperHexDigit (n : Nat) : Char :=
  (Nat.digitChar n).toUpper

/-- Two digits for each byte. -/
def upperHex (bytes : List UInt8) : String :=
  String.ofList (bytes.flatMap fun b =>
    [upperHexDigit (b.toNat / 16), upperHexDigit (b.toNat % 16)])

namespace Value

mutual

def doc : Value → Doc
  | .null => Doc.text "NULL"
  | .default => Doc.text "DEFAULT"
  | .bool b => Doc.text (if b then "TRUE" else "FALSE")
  | .int n => Doc.int n
  | .uint n => Doc.uint n
  | .float x => Doc.float x
  | .text s => literal s
  | .blob bytes => Doc.text "X" ++ literal (upperHex bytes)
  | .row values => Doc.text "ROW" ++ paren (list (docs values))

def docs : List Value → List Doc
  | [] => []
  | v :: vs => doc v :: docs vs

end

end Value
end SqlTree
