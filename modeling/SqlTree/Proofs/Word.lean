import SqlTree.Construct
import SqlTree.Proofs.Nesting

/-! The fixed texts of SQL, its keywords, signs and numbers. None of them holds a quote or a comma,
so these characters come from a configuration, a literal or the caller. Words leave no bracket
open and break no line. -/
namespace SqlTree

/-- The characters that open and close literals and quoted names, and the comma. -/
def isReserved (c : Char) : Bool :=
  c == '\x27' || c == '\x60' || c == '"' || c == ','

def Unreserved (s : String) : Prop :=
  ∀ c ∈ s.toList, isReserved c = false

structure Sign (s : String) : Prop where
  ne_empty : s ≠ ""
  unreserved : Unreserved s

/-- The characters of layout, which end a line and indent the next one. -/
def isBreak (c : Char) : Bool :=
  c == '\n' || c == '\t'

/-- A sign that may stand anywhere in a text. -/
structure Word (s : String) : Prop extends Sign s where
  nested : Nested s.toList
  inline : ∀ c ∈ s.toList, isBreak c = false

namespace Unreserved
variable {s t : String}

private theorem append (hs : Unreserved s) (ht : Unreserved t) : Unreserved (s ++ t) := by
  intro c hc
  rw [String.toList_append, List.mem_append] at hc
  exact hc.elim (hs c) (ht c)

theorem ofList {cs : List Char} (h : cs.all (!isReserved ·) = true) :
    Unreserved (String.ofList cs) := by
  intro c hc
  have hfree := List.all_eq_true.mp h c (by simpa using hc)
  simpa using hfree

theorem not_mem (h : Unreserved s) {c : Char} (hc : isReserved c = true) : c ∉ s.toList := by
  intro hm
  rw [h c hm] at hc
  exact Bool.false_ne_true hc

end Unreserved

theorem upperHex_unreserved (bs : List UInt8) : Unreserved (upperHex bs) := by
  have hdigit : ∀ n < 16, isReserved (upperHexDigit n) = false := by decide
  intro c hc
  rw [upperHex, String.toList_ofList, List.mem_flatMap] at hc
  obtain ⟨b, -, hb⟩ := hc
  have hlow : b.toNat % 16 < 16 := Nat.mod_lt _ (by decide)
  have hhigh : b.toNat / 16 < 16 := by
    have := b.toNat_lt
    omega
  rw [List.mem_cons, List.mem_singleton] at hb
  obtain rfl | rfl := hb
  · exact hdigit _ hhigh
  · exact hdigit _ hlow

/-- Literal signs are signs by computation. -/
theorem Sign.ofList {cs : List Char} (h : (!cs.isEmpty && cs.all (!isReserved ·)) = true) :
    Sign (String.ofList cs) := by
  simp only [Bool.and_eq_true, Bool.not_eq_true', List.isEmpty_eq_false_iff] at h
  refine ⟨?_, .ofList h.2⟩
  intro he
  exact h.1 (by simpa using congrArg String.toList he)

namespace Word
variable {s t : String}

/-- Literal keywords are words by computation. -/
theorem ofList {cs : List Char}
    (h : (!cs.isEmpty && cs.all (!isReserved ·) && closes [] cs && cs.all (!isBreak ·)) = true) :
    Word (String.ofList cs) := by
  rw [Bool.and_eq_true, Bool.and_eq_true] at h
  refine ⟨.ofList h.1.1, ?_, ?_⟩
  · rw [String.toList_ofList]
    exact h.1.2
  · intro c hc
    have hinline := List.all_eq_true.mp h.2 c (by simpa using hc)
    simpa using hinline

private theorem append (hs : Word s) (ht : Word t) : Word (s ++ t) := by
  refine ⟨⟨by simp [hs.ne_empty], hs.unreserved.append ht.unreserved⟩, ?_, ?_⟩
  · rw [String.toList_append]
    exact hs.nested.append ht.nested
  · intro c hc
    rw [String.toList_append, List.mem_append] at hc
    exact hc.elim (hs.inline c) (ht.inline c)

end Word

namespace Decimal

/-- Only digits, signs and points. -/
def Numeral (s : String) : Prop :=
  ∀ c ∈ s.toList, c.isDigit = true ∨ c = '-' ∨ c = '.'

private theorem digit_plain {c : Char} (h : c.isDigit = true) :
    isReserved c = false ∧ isBracket c = false ∧ isBreak c = false := by
  have hne : ∀ d : Char, d.isDigit = false → c ≠ d := by
    rintro d hd rfl
    rw [h] at hd
    cases hd
  refine ⟨?_, ?_, ?_⟩
  · simp only [isReserved, Bool.or_eq_false_iff, beq_eq_false_iff_ne]
    exact ⟨⟨⟨hne _ rfl, hne _ rfl⟩, hne _ rfl⟩, hne _ rfl⟩
  · have hopener : closer? c = none := by
      unfold closer?
      split
      · cases h
      · cases h
      · rfl
    simp only [isBracket, isCloser, hopener, Bool.or_eq_false_iff, beq_eq_false_iff_ne]
    exact ⟨rfl, hne _ rfl, hne _ rfl⟩
  · simp only [isBreak, Bool.or_eq_false_iff, beq_eq_false_iff_ne]
    exact ⟨hne _ rfl, hne _ rfl⟩

namespace Numeral
variable {s t : String}

private theorem append (hs : Numeral s) (ht : Numeral t) : Numeral (s ++ t) := by
  intro c hc
  rw [String.toList_append, List.mem_append] at hc
  exact hc.elim (hs c) (ht c)

private theorem ofList {cs : List Char} (h : ∀ c ∈ cs, c.isDigit = true ∨ c = '-' ∨ c = '.') :
    Numeral (String.ofList cs) := by
  intro c hc
  exact h c (by simpa using hc)

private theorem word (h : Numeral s) (hne : s ≠ "") : Word s := by
  have hplain : ∀ c ∈ s.toList,
      isReserved c = false ∧ isBracket c = false ∧ isBreak c = false := by
    intro c hc
    obtain hdigit | rfl | rfl := h c hc
    · exact digit_plain hdigit
    · exact ⟨rfl, rfl, rfl⟩
    · exact ⟨rfl, rfl, rfl⟩
  exact ⟨⟨hne, fun c hc => (hplain c hc).1⟩, .of_not_isBracket fun c hc => (hplain c hc).2.1,
    fun c hc => (hplain c hc).2.2⟩

end Numeral

private theorem toList_repr (n : Nat) : n.repr.toList = Nat.toDigits 10 n := by
  simp [Nat.repr]

private theorem repr_numeral (n : Nat) : Numeral n.repr := by
  intro c hc
  rw [toList_repr] at hc
  exact .inl (Nat.isDigit_of_mem_toDigits (by omega) (by omega) hc)

theorem repr_word (n : Nat) : Word n.repr := by
  refine (repr_numeral n).word ?_
  intro he
  exact Nat.toDigits_ne_nil (by rw [← toList_repr, he]; rfl)

private theorem signed_word {s : String} (negative : Bool) (h : Word s) :
    Word (signed negative s) := by
  cases negative with
  | false => exact h
  | true => exact Word.append (.ofList rfl) h

theorem integer_word (n : Int) : Word (integer n) :=
  signed_word _ (repr_word _)

private theorem zeros_numeral (n : Nat) : Numeral (zeros n) := by
  refine .ofList fun c hc => ?_
  rw [(List.mem_replicate.mp hc).2]
  exact .inl rfl

/-- The digits before and after the point are cut from one run of digits. -/
private theorem positional_word (d : Scientific) : Word d.positional := by
  have hr := repr_numeral d.digits
  unfold Scientific.positional
  dsimp only
  split
  · exact (hr.append (zeros_numeral _)).word (by simp [(repr_word d.digits).ne_empty])
  · have hfront : Numeral (String.ofList
        (d.digits.repr.toList.take (d.digits.repr.length - (-d.exponent).toNat))) :=
      .ofList fun c hc => hr c (List.mem_of_mem_take hc)
    have hback : Numeral (String.ofList
        (d.digits.repr.toList.drop (d.digits.repr.length - (-d.exponent).toNat))) :=
      .ofList fun c hc => hr c (List.mem_of_mem_drop hc)
    have hpoint : Numeral "." := fun c hc => .inr (.inr (by simpa using hc))
    have hzero : Numeral "0" := repr_numeral 0
    refine (Numeral.append (.append (.append ?_ hpoint) (zeros_numeral _)) hback).word (by simp)
    split
    · exact hzero
    · exact hfront

theorem float_word {x : Float} {digits : String} (h : float x = .ok digits) : Word digits := by
  unfold float at h
  split at h
  · cases h
  · cases h
  · cases h
    exact signed_word _ (.ofList rfl)
  · cases h
    exact signed_word _ (positional_word _)

end Decimal

/-- Types of which every alternative is spelled by a word. -/
class SpelledByWords (α : Type) [Spelled α] : Prop where
  word (a : α) : Word (Spelled.keyword a)

instance : SpelledByWords BinaryKind := ⟨fun a => by cases a <;> exact .ofList rfl⟩
instance : SpelledByWords BooleanType := ⟨fun a => by cases a <;> exact .ofList rfl⟩
instance : SpelledByWords CharacterKind := ⟨fun a => by cases a <;> exact .ofList rfl⟩
instance : SpelledByWords CheckTime := ⟨fun a => by cases a <;> exact .ofList rfl⟩
instance : SpelledByWords ClockKind := ⟨fun a => by cases a <;> exact .ofList rfl⟩
instance : SpelledByWords CommitAction := ⟨fun a => by cases a <;> exact .ofList rfl⟩
instance : SpelledByWords DateTimeKind := ⟨fun a => by cases a <;> exact .ofList rfl⟩
instance : SpelledByWords Direction := ⟨fun a => by cases a <;> exact .ofList rfl⟩
instance : SpelledByWords DropBehavior := ⟨fun a => by cases a <;> exact .ofList rfl⟩
instance : SpelledByWords FieldKind := ⟨fun a => by cases a <;> exact .ofList rfl⟩
instance : SpelledByWords FrameExclusion := ⟨fun a => by cases a <;> exact .ofList rfl⟩
instance : SpelledByWords FrameUnits := ⟨fun a => by cases a <;> exact .ofList rfl⟩
instance : SpelledByWords Generated := ⟨fun a => by cases a <;> exact .ofList rfl⟩
instance : SpelledByWords IdentityRestart := ⟨fun a => by cases a <;> exact .ofList rfl⟩
instance : SpelledByWords IntegerType := ⟨fun a => by cases a <;> exact .ofList rfl⟩
instance : SpelledByWords LengthUnit := ⟨fun a => by cases a <;> exact .ofList rfl⟩
instance : SpelledByWords LikeProperty := ⟨fun a => by cases a <;> exact .ofList rfl⟩
instance : SpelledByWords LockMode := ⟨fun a => by cases a <;> exact .ofList rfl⟩
instance : SpelledByWords MatchType := ⟨fun a => by cases a <;> exact .ofList rfl⟩
instance : SpelledByWords NullsPlace := ⟨fun a => by cases a <;> exact .ofList rfl⟩
instance : SpelledByWords NumericKind := ⟨fun a => by cases a <;> exact .ofList rfl⟩
instance : SpelledByWords Overriding := ⟨fun a => by cases a <;> exact .ofList rfl⟩
instance : SpelledByWords ReferenceGeneration := ⟨fun a => by cases a <;> exact .ofList rfl⟩
instance : SpelledByWords ReferentialAction := ⟨fun a => by cases a <;> exact .ofList rfl⟩
instance : SpelledByWords RowsKeyword := ⟨fun a => by cases a <;> exact .ofList rfl⟩
instance : SpelledByWords SampleMethod := ⟨fun a => by cases a <;> exact .ofList rfl⟩
instance : SpelledByWords SessionValue := ⟨fun a => by cases a <;> exact .ofList rfl⟩
instance : SpelledByWords SetQuantifier := ⟨fun a => by cases a <;> exact .ofList rfl⟩
instance : SpelledByWords SystemVersioning := ⟨fun a => by cases a <;> exact .ofList rfl⟩
instance : SpelledByWords TableScope := ⟨fun a => by cases a <;> exact .ofList rfl⟩
instance : SpelledByWords UniqueKind := ⟨fun a => by cases a <;> exact .ofList rfl⟩

instance : SpelledByWords Keyword where
  word k := by
    cases k
    case systemTime => exact .ofList rfl
    all_goals
      rename_i a
      have h := SpelledByWords.word a
      exact h

theorem JoinKind.keyword?_word (k : JoinKind) (s : String) (h : k.keyword? = some s) : Word s := by
  cases k <;> cases h <;> exact .ofList rfl

theorem Characteristics.keywords_word (c : Characteristics) : ∀ s ∈ c.keywords, Word s := by
  intro s hs
  simp only [Characteristics.keywords, List.mem_append, Option.mem_toList,
    Option.map_eq_some_iff] at hs
  rcases hs with (⟨t, -, rfl⟩ | ⟨b, -, rfl⟩) | ⟨b, -, rfl⟩
  · exact SpelledByWords.word t
  · cases b <;> exact .ofList rfl
  · cases b <;> exact .ofList rfl

end SqlTree
