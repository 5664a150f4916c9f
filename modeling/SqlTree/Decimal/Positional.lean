import SqlTree.Decimal.Binary64
import SqlTree.Decimal.Shortest

/-! Numbers written in positional notation, without an exponent. -/
namespace SqlTree.Decimal

def signed (negative : Bool) (text : String) : String :=
  if negative then "-" ++ text else text

def integer (n : Int) : String :=
  signed (n < 0) n.natAbs.repr

def zeros (n : Nat) : String :=
  String.ofList (List.replicate n '0')

/-- All digits are written out, and a point stands only before a fraction. -/
def Scientific.positional (d : Scientific) : String :=
  let text := d.digits.repr
  let places := (-d.exponent).toNat
  if places = 0 then text ++ zeros d.exponent.toNat
  else
    let whole := text.length - places
    let (front, back) := (text.toList.take whole, text.toList.drop whole)
    let front := if whole = 0 then "0" else String.ofList front
    front ++ "." ++ zeros (places - text.length) ++ String.ofList back

/-- The floats that have no digits. -/
inductive NonFinite where
  | nan
  | infinite (negative : Bool)
  deriving DecidableEq

def NonFinite.name : NonFinite → String
  | .nan => "NaN"
  | .infinite negative => signed negative "inf"

/-- The fewest digits that read back as `x`. Zero keeps its sign. -/
def float (x : Float) : Except NonFinite String :=
  match Binary64.ofFloat x with
  | .nan => .error .nan
  | .infinite negative => .error (.infinite negative)
  | .finite negative 0 _ => .ok (signed negative "0")
  | .finite negative mantissa exponent =>
    .ok (signed negative (shortest mantissa exponent).positional)

end SqlTree.Decimal
