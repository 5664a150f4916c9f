import SqlTree.Text.Letter

/-! Alphabets. Which characters are letters is a matter of the Unicode version, but all versions
agree on the ASCII characters. -/
namespace SqlTree

/-- The first two ranges of the table are the ASCII letters, and the third one begins after all
ASCII characters. -/
theorem Text.isLetter_of_ascii {c : Char} (hc : c.toNat < 128) : isLetter c = c.isAlpha := by
  have hrange : ∀ n < 128, inRanges n letterRanges = (Char.ofNat n).isAlpha := by decide
  rw [isLetter, hrange c.toNat hc, Char.ofNat_toNat]

structure Alphabet where
  isLetter : Char → Bool
  isLetter_of_ascii {c : Char} : c.toNat < 128 → isLetter c = c.isAlpha

namespace Alphabet

instance : Coe Alphabet (Char → Bool) := ⟨isLetter⟩

/-- The letters of Unicode 14.0. -/
def unicode : Alphabet where
  isLetter := Text.isLetter
  isLetter_of_ascii := Text.isLetter_of_ascii

end Alphabet
end SqlTree
