import SqlTree.Config

/-! Configurations read from structured data and written as JSON. -/
namespace SqlTree

/-- A value of a data format, told apart as far as a configuration needs it. -/
inductive Data where
  | text (s : String)
  | list (items : List Data)
  | record (fields : List (String × Data))
  /-- Null, a number or a truth value. -/
  | other
  deriving Inhabited

/-- A character is given as a text of that character alone. -/
def Data.char? : Data → Option Char
  | .text s =>
    match s.toList with
    | [c] => some c
    | _ => none
  | _ => none

namespace Config

/-- A missing value means `standard`; one that is there has to be a character. -/
def charOr (standard : Char) : Option Data → Option Char
  | none => some standard
  | some value => value.char?

/-- A record names its fields and may hold others; a list gives them in order. -/
def ofData? : Data → Option Config
  | .record fields => do
    let whitespace ← charOr default.whitespace (fields.lookup "whitespace")
    let separator ← charOr default.separator (fields.lookup "separator")
    let quote ← charOr default.quote (fields.lookup "quote")
    return { whitespace, separator, quote }
  | .list items => do
    let whitespace ← charOr default.whitespace items[0]?
    let separator ← charOr default.separator items[1]?
    let quote ← charOr default.quote items[2]?
    if items.length ≤ 3 then return { whitespace, separator, quote } else none
  | _ => none

/-- Quotes, backslashes and control characters are escaped, all else stands for itself. -/
def jsonChar (c : Char) : String :=
  if c = '"' then "\\\""
  else if c = '\\' then "\\\\"
  else if c = '\x08' then "\\b"
  else if c = '\t' then "\\t"
  else if c = '\n' then "\\n"
  else if c = '\x0c' then "\\f"
  else if c = '\r' then "\\r"
  else if c.toNat < 0x20 then
    "\\u00" ++ String.ofList [Nat.digitChar (c.toNat / 16), Nat.digitChar (c.toNat % 16)]
  else c.toString

def jsonField (name : String) (c : Char) : String :=
  "\"" ++ name ++ "\":\"" ++ jsonChar c ++ "\""

/-- The fields stand in the order of the type. -/
def toJson (c : Config) : String :=
  "\x7b" ++ jsonField "whitespace" c.whitespace ++ "," ++ jsonField "separator" c.separator ++ ","
    ++ jsonField "quote" c.quote ++ "\x7d"

end Config
end SqlTree
