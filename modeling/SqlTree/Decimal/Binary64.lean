/-! What the 64 bits of a float stand for. -/
namespace SqlTree.Decimal

inductive Binary64 where
  /-- The value is `mantissa * 2 ^ exponent`, and zero has a sign too. -/
  | finite (negative : Bool) (mantissa : Nat) (exponent : Int)
  | infinite (negative : Bool)
  | nan
  deriving DecidableEq

/-- A zero exponent field marks the values without a leading one bit, a full field the values
that are no numbers. -/
def Binary64.ofBits (bits : UInt64) : Binary64 :=
  let negative := bits >>> 63 = 1
  let exponent := ((bits >>> 52) &&& 0x7FF).toNat
  let fraction := (bits &&& 0xFFFFFFFFFFFFF).toNat
  if exponent = 0x7FF then
    if fraction = 0 then .infinite negative else .nan
  else if exponent = 0 then .finite negative fraction (-1074)
  else .finite negative (Nat.pow 2 52 + fraction) (exponent - 1075)

def Binary64.ofFloat (x : Float) : Binary64 :=
  ofBits x.toBits

end SqlTree.Decimal
