import SqlTree.Ident
import SqlTree.Text.Alphabet

/-! The characters that a rendering leaves open, and the presets of SQL dialects. -/
namespace SqlTree

/-- A configuration changes how a text is spaced, separated and quoted, never what it says. -/
structure Config where
  /-- Written between words. -/
  whitespace : Char := ' '
  /-- Written between the items of a list. -/
  separator : Char := ','
  /-- Encloses the identifiers that cannot stand bare. -/
  quote : Char := '\x60'
  deriving DecidableEq

def Config.default : Config := {}

/-- What a text depends on: the configuration of the caller and the letters of the Unicode version
at hand. -/
structure Setting extends Config where
  alphabet : Alphabet := .unicode

namespace Setting

def default (abc : Alphabet := .unicode) : Setting := { alphabet := abc }

instance : CoeTail Config Setting := ⟨fun c => { toConfig := c }⟩
instance : CoeOut Setting Config := ⟨toConfig⟩

end Setting

/-- The conventions of a family of databases. -/
structure Dialect where
  name : String
  identifierQuote : Char := '"'
  separator : Char := ','
  whitespace : Char := ' '
  deriving DecidableEq

namespace Dialect

/-- The quotes of the SQL standard. -/
def generic : Dialect := { name := "generic" }

def mysql : Dialect := { name := "mysql", identifierQuote := '\x60' }

def sqlite : Dialect := { name := "sqlite" }

def presets : List Dialect := [generic, mysql, sqlite]

def config (d : Dialect) : Config :=
  { whitespace := d.whitespace, separator := d.separator, quote := d.identifierQuote }

def quoteIdentifier (d : Dialect) (i : Ident) (letter : Char → Bool := Text.isLetter) : String :=
  i.escape d.identifierQuote letter

end Dialect
end SqlTree
