import Mathlib.Logic.Function.Basic
import SqlTree.Ident
import SqlTree.Proofs.Quoted
import SqlTree.Text.Alphabet

/-! Names read back from their spelling. A bare name that itself begins and ends with the quote is
taken for a quoted one; all other names come back. -/
namespace SqlTree

/-- The table begins with the Latin letters, which come after the digits. -/
private theorem Text.isLetter_eq_false_of_isDigit {c : Char} (h : c.isDigit = true) :
    isLetter c = false := by
  have hlow : c.toNat < 0x41 := by
    rw [Char.isDigit, Bool.and_eq_true, decide_eq_true_eq, decide_eq_true_eq] at h
    exact Nat.lt_of_le_of_lt h.2 (by decide)
  rw [isLetter, letterRanges, inRanges, if_pos hlow]

namespace Ident
open Text.Quoted
variable {letter : Char → Bool} {q c : Char} {i j : Ident}

section
variable (abc : Alphabet)

private theorem isBareChar_of_ascii (hc : c.toNat < 128) : isBareChar c abc = isBareChar c := by
  rw [isBareChar, isBareChar, abc.isLetter_of_ascii hc, Text.isLetter_of_ascii hc]

/-- The ASCII characters that no alphabet puts into a bare name. -/
def isSign (c : Char) : Bool :=
  c.toNat < 128 && !isBareChar c

theorem isBareChar_of_isSign (h : isSign c = true) : isBareChar c abc = false := by
  rw [isSign, Bool.and_eq_true, decide_eq_true_eq, Bool.not_eq_true'] at h
  rw [isBareChar_of_ascii abc h.1, h.2]

/-- A name of ASCII characters that stands bare in every alphabet. -/
def isAsciiWord (i : Ident) : Bool :=
  i.name.toList.all (·.toNat < 128) && !i.needsQuoting

theorem needsQuoting_of_isAsciiWord (h : i.isAsciiWord = true) : i.needsQuoting abc = false := by
  rw [isAsciiWord, Bool.and_eq_true, List.all_eq_true, Bool.not_eq_true'] at h
  obtain ⟨hascii, hbare⟩ := h
  rw [needsQuoting, Bool.or_eq_false_iff, List.any_eq_false] at hbare ⊢
  refine ⟨fun c hc => ?_, hbare.2⟩
  rw [isBareChar_of_ascii abc (of_decide_eq_true (hascii c hc))]
  exact hbare.1 c hc

end

/-- The quote stands at both of two ends. -/
def LooksQuoted (q : Char) (i : Ident) : Prop :=
  2 ≤ i.name.length ∧ i.name.toList.head? = some q ∧ i.name.toList.getLast? = some q

theorem looksQuoted_iff : LooksQuoted q i ↔ (inside? q i.name.toList).isSome := by
  rw [inside?_isSome_iff, String.length_toList]
  rfl

theorem needsQuoting_eq_false_iff :
    i.needsQuoting letter = false ↔
      (∀ c ∈ i.name.toList, isBareChar c letter = true) ∧
        ∃ c ∈ i.name.toList, c.isDigit = false := by
  rw [needsQuoting, Bool.or_eq_false_iff, List.any_eq_false, List.all_eq_false]
  simp

private theorem isBareChar_of_isDigit (h : c.isDigit = true) : isBareChar c letter = true := by
  simp [isBareChar, h]

theorem escape_of_bare (h : i.needsQuoting letter = false) : i.escape q letter = i.name := by
  simp [escape, h]

theorem toList_escape_of_needsQuoting (h : i.needsQuoting letter = true) :
    (i.escape q letter).toList = enclose q i.name.toList := by
  simp [escape, h]

private theorem unescape?_escape_of_needsQuoting (h : i.needsQuoting letter = true) :
    unescape? q (i.escape q letter) letter = some i := by
  rw [unescape?, toList_escape_of_needsQuoting h, inside?_enclose]
  simp [undouble?_double]

/-- What is read from between two quotes is shorter than the name that holds them. -/
private theorem unescape?_name_ne_of_looksQuoted (h : LooksQuoted q i) :
    unescape? q i.name letter ≠ some i := by
  obtain ⟨cs, hcs⟩ := Option.isSome_iff_exists.mp (looksQuoted_iff.mp h)
  rw [unescape?, hcs]
  intro hread
  obtain ⟨name, hname, rfl⟩ := Option.map_eq_some_iff.mp hread
  have hlong : name = q :: (cs ++ [q]) := by
    simpa using inside?_eq_some_iff.mp hcs
  have hshort : name.length ≤ cs.length := by
    rw [undouble?_eq_some_iff.mp hname]
    exact length_le_length_double q name
  rw [hlong, List.length_cons, List.length_append] at hshort
  omega

private theorem unescape?_name_of_bare (h : i.needsQuoting letter = false)
    (hq : ¬ LooksQuoted q i) : unescape? q i.name letter = some i := by
  rw [looksQuoted_iff, Option.not_isSome_iff_eq_none] at hq
  rw [unescape?, hq]
  simp [h]

theorem unescape?_escape_eq_some_iff :
    unescape? q (i.escape q letter) letter = some i ↔
      ¬ (i.needsQuoting letter = false ∧ LooksQuoted q i) := by
  cases h : i.needsQuoting letter with
  | true => simp [unescape?_escape_of_needsQuoting h]
  | false =>
    rw [escape_of_bare h]
    constructor
    · rintro hread ⟨-, hq⟩
      exact unescape?_name_ne_of_looksQuoted hq hread
    · intro hq
      exact unescape?_name_of_bare h fun hlooks => hq ⟨rfl, hlooks⟩

/-- A bare quote can stand around any bare character. -/
private theorem exists_bare_looksQuoted (hq : isBareChar q letter = true) :
    ∃ i : Ident, i.needsQuoting letter = false ∧ LooksQuoted q i := by
  refine ⟨⟨String.ofList [q, '_', q]⟩, ?_, ?_⟩
  · rw [needsQuoting_eq_false_iff, String.toList_ofList]
    refine ⟨?_, '_', by simp, by decide⟩
    have hunderscore : isBareChar '_' letter = true := by simp [isBareChar]
    intro c hc
    simp only [List.mem_cons, List.not_mem_nil, or_false] at hc
    obtain rfl | rfl | rfl := hc
    · exact hq
    · exact hunderscore
    · exact hq
  · rw [looksQuoted_iff, String.toList_ofList]
    simp [inside?]

theorem forall_unescape?_escape_iff :
    (∀ i : Ident, unescape? q (i.escape q letter) letter = some i) ↔
      isBareChar q letter = false := by
  simp only [unescape?_escape_eq_some_iff]
  constructor
  · intro h
    by_contra hq
    obtain ⟨i, hi⟩ := exists_bare_looksQuoted (Bool.not_eq_false _ ▸ hq)
    exact h i hi
  · rintro hq i ⟨hbare, -, hhead, -⟩
    have hmem : q ∈ i.name.toList := List.mem_of_mem_head? hhead
    rw [(needsQuoting_eq_false_iff.mp hbare).1 q hmem] at hq
    cases hq

/-- A bare name that spells a quoted one holds the quote and all characters of the other name, so
either one of these is no digit and that name stands bare too, or the quote is no digit. -/
private theorem not_isDigit_of_escape_eq (hi : i.needsQuoting letter = true)
    (hj : j.needsQuoting letter = false) (h : i.escape q letter = j.escape q letter) :
    isBareChar q letter = true ∧ q.isDigit = false := by
  have hname : j.name.toList = enclose q i.name.toList := by
    rw [← toList_escape_of_needsQuoting hi, h, escape_of_bare hj]
  have hmem : ∀ c, c ∈ j.name.toList ↔ c = q ∨ c ∈ i.name.toList := by
    intro c
    rw [hname, enclose, List.mem_append, List.mem_cons, mem_double, List.mem_singleton,
      or_right_comm, or_self]
  obtain ⟨hbare, d, hd, hdigit⟩ := needsQuoting_eq_false_iff.mp hj
  have hquote : isBareChar q letter = true := hbare q ((hmem q).mpr (.inl rfl))
  refine ⟨hquote, ?_⟩
  obtain rfl | hd := (hmem d).mp hd
  · exact hdigit
  · have hplain : i.needsQuoting letter = false :=
      needsQuoting_eq_false_iff.mpr ⟨fun c hc => hbare c ((hmem c).mpr (.inr hc)), d, hd, hdigit⟩
    rw [hi] at hplain
    cases hplain

/-- Between two quotes that are bare but no digits, the number one is spelled like a bare name. -/
theorem not_injective_escape (hq : isBareChar q letter = true) (hdigit : q.isDigit = false) :
    ¬ Function.Injective fun i : Ident => i.escape q letter := by
  have hone : (⟨"1"⟩ : Ident).needsQuoting letter = true := by simp [needsQuoting]
  have hbare : (⟨String.ofList [q, '1', q]⟩ : Ident).needsQuoting letter = false := by
    have hdigitOne : isBareChar '1' letter = true := isBareChar_of_isDigit rfl
    rw [needsQuoting_eq_false_iff, String.toList_ofList]
    refine ⟨?_, q, by simp, hdigit⟩
    intro c hc
    simp only [List.mem_cons, List.not_mem_nil, or_false] at hc
    obtain rfl | rfl | rfl := hc
    · exact hq
    · exact hdigitOne
    · exact hq
  have hne : '1' ≠ q := by
    rintro rfl
    cases hdigit
  intro hinj
  have hsame : (⟨"1"⟩ : Ident).escape q letter =
      (⟨String.ofList [q, '1', q]⟩ : Ident).escape q letter := by
    rw [escape_of_bare hbare, ← String.toList_inj, toList_escape_of_needsQuoting hone]
    simp [enclose, double, hne]
  have hname := congrArg (fun i : Ident => i.name.toList) (hinj hsame)
  simp at hname

theorem injective_escape_iff :
    (Function.Injective fun i : Ident => i.escape q letter) ↔
      isBareChar q letter = false ∨ q.isDigit = true := by
  constructor
  · intro hinj
    by_contra hq
    rw [not_or, Bool.not_eq_false, Bool.not_eq_true] at hq
    exact not_injective_escape hq.1 hq.2 hinj
  · intro hq i j h
    have hq' : ¬ (isBareChar q letter = true ∧ q.isDigit = false) := by
      rintro ⟨hbare, hdigit⟩
      simp [hbare, hdigit] at hq
    dsimp only at h
    cases hi : i.needsQuoting letter <;> cases hj : j.needsQuoting letter
    · rw [escape_of_bare hi, escape_of_bare hj] at h
      cases i
      cases j
      exact congrArg Ident.mk h
    · exact absurd (not_isDigit_of_escape_eq hj hi h.symm) hq'
    · exact absurd (not_isDigit_of_escape_eq hi hj h) hq'
    · have hread := unescape?_escape_of_needsQuoting (q := q) hi
      rw [h, unescape?_escape_of_needsQuoting hj] at hread
      exact (Option.some.inj hread).symm

/-- Escape and unescape, for every choice of letters that leaves out the digits. The round trip
fails for the bare names that look quoted and for no others, so a quote that cannot stand in a bare
name never fails. Different names are spelled differently also if the quote is a digit. -/
theorem escape_round_trip (hdigits : ∀ c : Char, c.isDigit = true → letter c = false) (q : Char) :
    (∀ i : Ident, unescape? q (i.escape q letter) letter = some i ↔
      ¬ (i.needsQuoting letter = false ∧ LooksQuoted q i)) ∧
    ((∀ i : Ident, unescape? q (i.escape q letter) letter = some i) ↔
      isBareChar q letter = false) ∧
    ((Function.Injective fun i : Ident => i.escape q letter) ↔
      letter q = false ∧ q ≠ '$' ∧ q ≠ '_') := by
  refine ⟨fun i => unescape?_escape_eq_some_iff, forall_unescape?_escape_iff, ?_⟩
  have hbare : isBareChar q letter = false ∨ q.isDigit = true ↔
      letter q = false ∧ q ≠ '$' ∧ q ≠ '_' := by
    by_cases hdigit : q.isDigit = true
    · have hdollar : q ≠ '$' := by
        rintro rfl
        cases hdigit
      have hunderscore : q ≠ '_' := by
        rintro rfl
        cases hdigit
      simp [hdigit, hdigits q hdigit, hdollar, hunderscore]
    · simp [isBareChar, hdigit, and_assoc]
  exact injective_escape_iff.trans hbare

/-- A digit as the quote: the number and the bare name are spelled differently, but the bare name
does not come back. -/
theorem escape_round_trip_digit :
    (∀ c : Char, c.isDigit = true → Text.isLetter c = false) ∧
    unescape? '7' (escape '7' ⟨"77"⟩) = some ⟨"77"⟩ ∧
    unescape? '7' (escape '7' ⟨"7_7"⟩) ≠ some ⟨"7_7"⟩ ∧
    Function.Injective fun i : Ident => i.escape '7' := by
  have hdigits : ∀ c : Char, c.isDigit = true → Text.isLetter c = false :=
    fun _ => Text.isLetter_eq_false_of_isDigit
  obtain ⟨hread, -, hinj⟩ := escape_round_trip hdigits '7'
  refine ⟨hdigits, (hread ⟨"77"⟩).mpr ?_, fun h => (hread ⟨"7_7"⟩).mp h ?_, hinj.mpr ?_⟩
  · rintro ⟨hbare, -⟩
    revert hbare
    decide
  · exact ⟨by decide, by decide, by decide, by decide⟩
  · decide

end Ident
end SqlTree
