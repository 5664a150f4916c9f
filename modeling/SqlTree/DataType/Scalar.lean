import SqlTree.Name

/-! Types of characters, bytes, numbers and truth values. -/
namespace SqlTree
open Doc

/-- A count in parentheses right after a keyword, if it is there. -/
def Doc.measure (n : Option UInt64) : Doc :=
  optional n (paren <| uint ·)

/-- An order of the characters of a text. -/
structure Collation where
  name : QualifiedName
  deriving DecidableEq

def Collation.doc (c : Collation) : Doc :=
  text "COLLATE" ++ space ++ c.name.doc

inductive CharacterKind where
  | character | char | characterVarying | charVarying | varChar
  | characterLargeObject | charLargeObject | clob | text
  | nationalCharacter | nationalChar | nChar
  | nationalCharacterVarying | nationalCharVarying | nCharVarying
  | nationalCharacterLargeObject | nCharLargeObject | nClob
  deriving DecidableEq

instance : Spelled CharacterKind where
  keyword
    | .character => "CHARACTER"
    | .char => "CHAR"
    | .characterVarying => "CHARACTER VARYING"
    | .charVarying => "CHAR VARYING"
    | .varChar => "VARCHAR"
    | .characterLargeObject => "CHARACTER LARGE OBJECT"
    | .charLargeObject => "CHAR LARGE OBJECT"
    | .clob => "CLOB"
    | .text => "TEXT"
    | .nationalCharacter => "NATIONAL CHARACTER"
    | .nationalChar => "NATIONAL CHAR"
    | .nChar => "NCHAR"
    | .nationalCharacterVarying => "NATIONAL CHARACTER VARYING"
    | .nationalCharVarying => "NATIONAL CHAR VARYING"
    | .nCharVarying => "NCHAR VARYING"
    | .nationalCharacterLargeObject => "NATIONAL CHARACTER LARGE OBJECT"
    | .nCharLargeObject => "NCHAR LARGE OBJECT"
    | .nClob => "NCLOB"

/-- What a character length counts. -/
inductive LengthUnit where
  | characters | octets | codeUnits32
  deriving DecidableEq

instance : Spelled LengthUnit where
  keyword
    | .characters => "CHARACTERS"
    | .octets => "OCTETS"
    | .codeUnits32 => "CODEUNITS32"

/-- A unit without a length is not written. -/
structure CharacterType where
  kind : CharacterKind
  length : Option UInt64 := none
  unit : Option LengthUnit := none
  charset : Option QualifiedName := none
  collation : Option Collation := none
  deriving DecidableEq

namespace CharacterType

def varChar (length : UInt64) : CharacterType :=
  { kind := .varChar, length := some length }

def nChar (length : UInt64) : CharacterType :=
  { kind := .nChar, length := some length }

def doc (t : CharacterType) : Doc :=
  keyword t.kind
    ++ optional t.length (fun n => paren (uint n ++ after t.unit keyword))
    ++ clause "CHARACTER SET" t.charset (·.doc)
    ++ after t.collation (·.doc)

end CharacterType

inductive BinaryKind where
  | binary | binaryVarying | varBinary | binaryLargeObject | blob
  deriving DecidableEq

instance : Spelled BinaryKind where
  keyword
    | .binary => "BINARY"
    | .binaryVarying => "BINARY VARYING"
    | .varBinary => "VARBINARY"
    | .binaryLargeObject => "BINARY LARGE OBJECT"
    | .blob => "BLOB"

structure BinaryType where
  kind : BinaryKind
  length : Option UInt64 := none
  deriving DecidableEq

namespace BinaryType

def varBinary (length : UInt64) : BinaryType :=
  { kind := .varBinary, length := some length }

def doc (t : BinaryType) : Doc :=
  keyword t.kind ++ measure t.length

end BinaryType

inductive NumericKind where
  | numeric | decimal | dec | float | real | doublePrecision | decFloat
  | smallSerial | serial | bigSerial
  deriving DecidableEq

instance : Spelled NumericKind where
  keyword
    | .numeric => "NUMERIC"
    | .decimal => "DECIMAL"
    | .dec => "DEC"
    | .float => "FLOAT"
    | .real => "REAL"
    | .doublePrecision => "DOUBLE PRECISION"
    | .decFloat => "DECFLOAT"
    | .smallSerial => "SMALLSERIAL"
    | .serial => "SERIAL"
    | .bigSerial => "BIGSERIAL"

/-- A scale without a precision is not written. -/
structure NumericType where
  kind : NumericKind
  precision : Option UInt64 := none
  scale : Option UInt64 := none
  deriving DecidableEq

namespace NumericType

def numeric (precision scale : UInt64) : NumericType :=
  { kind := .numeric, precision := some precision, scale := some scale }

def decimal (precision scale : UInt64) : NumericType :=
  { kind := .decimal, precision := some precision, scale := some scale }

def float (precision : UInt64) : NumericType :=
  { kind := .float, precision := some precision }

def doc (t : NumericType) : Doc :=
  keyword t.kind
    ++ optional t.precision (fun p => paren (uint p ++ optional t.scale (comma ++ uint ·)))

end NumericType

inductive IntegerType where
  | tinyInt | smallInt | mediumInt | int | integer | bigInt
  deriving DecidableEq

instance : Spelled IntegerType where
  keyword
    | .tinyInt => "TINYINT"
    | .smallInt => "SMALLINT"
    | .mediumInt => "MEDIUMINT"
    | .int => "INT"
    | .integer => "INTEGER"
    | .bigInt => "BIGINT"

inductive BooleanType where
  | boolean | bit
  deriving DecidableEq

instance : Spelled BooleanType where
  keyword
    | .boolean => "BOOLEAN"
    | .bit => "BIT"

end SqlTree
