import SqlTree.Text.Letter
import SqlTree.Text.Quoted

/-! Identifiers: plain names stand bare in SQL, all others are enclosed in a quote character. Which
characters are letters is a matter of the Unicode version, and `letter` decides it. -/
namespace SqlTree

/-- A name as the user gave it, before any quoting. -/
structure Ident where
  name : String
  deriving DecidableEq

namespace Ident

/-- The characters of bare names: letters of every script, ASCII digits, dollar and underscore. -/
def isBareChar (c : Char) (letter : Char → Bool := Text.isLetter) : Bool :=
  letter c || c.isDigit || c = '$' || c = '_'

/-- A name of digits alone would read as a number. The empty name counts as one. -/
def needsQuoting (i : Ident) (letter : Char → Bool := Text.isLetter) : Bool :=
  i.name.toList.any (!isBareChar · letter) || i.name.toList.all Char.isDigit

def escape (q : Char) (i : Ident) (letter : Char → Bool := Text.isLetter) : String :=
  if i.needsQuoting letter then String.ofList (Text.Quoted.enclose q i.name.toList) else i.name

/-- The identifier that `text` spells, if it is a quoted text or a bare name. -/
def unescape? (q : Char) (text : String) (letter : Char → Bool := Text.isLetter) : Option Ident :=
  match Text.Quoted.inside? q text.toList with
  | some cs => (Text.Quoted.undouble? q cs).map fun name => ⟨String.ofList name⟩
  | none => if needsQuoting ⟨text⟩ letter then none else some ⟨text⟩

end Ident
end SqlTree
