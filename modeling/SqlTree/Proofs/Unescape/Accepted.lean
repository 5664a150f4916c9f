import SqlTree.Proofs.Unescape

/-! The texts that are read as names: those that hold a name between two quotes, and the bare names
that do not look quoted. A quoted text is refused when its inner quotes cannot be paired. -/
namespace SqlTree

namespace Text.Quoted
variable {q c : Char} {cs : List Char}

/-- An odd number of quotes stand next to each other, with no further quote around them. -/
def HasOddRun (q : Char) (cs : List Char) : Prop :=
  ∃ (before : List Char) (n : Nat) (behind : List Char),
    cs = before ++ List.replicate (2 * n + 1) q ++ behind ∧
      before.getLast? ≠ some q ∧ behind.head? ≠ some q

private theorem not_hasOddRun_nil : ¬ HasOddRun q [] := by
  rintro ⟨before, n, behind, h, -, -⟩
  simp [List.replicate_succ] at h

private theorem hasOddRun_single (h : cs.head? ≠ some q) : HasOddRun q (q :: cs) :=
  ⟨[], 0, cs, rfl, by simp, h⟩

private theorem hasOddRun_cons_of_ne (hc : c ≠ q) : HasOddRun q (c :: cs) ↔ HasOddRun q cs := by
  constructor
  · rintro ⟨before, n, behind, h, hbefore, hbehind⟩
    cases before with
    | nil =>
      rw [List.nil_append, List.replicate_succ, List.cons_append] at h
      exact absurd (List.cons.inj h).1 hc
    | cons d before =>
      obtain ⟨rfl, rfl⟩ := List.cons.inj h
      refine ⟨before, n, behind, rfl, ?_, hbehind⟩
      cases before with
      | nil => simp
      | cons d before => simpa using hbefore
  · rintro ⟨before, n, behind, rfl, hbefore, hbehind⟩
    refine ⟨c :: before, n, behind, rfl, ?_, hbehind⟩
    cases before with
    | nil => simpa using hc
    | cons d before => simpa using hbefore

/-- A pair of quotes does not change which runs are odd. -/
private theorem hasOddRun_twice : HasOddRun q (q :: q :: cs) ↔ HasOddRun q cs := by
  constructor
  · rintro ⟨before, n, behind, h, hbefore, hbehind⟩
    cases before with
    | nil =>
      cases n with
      | zero =>
        obtain rfl : q :: cs = behind := (List.cons.inj h).2
        exact absurd rfl hbehind
      | succ n =>
        refine ⟨[], n, behind, ?_, hbefore, hbehind⟩
        simpa [Nat.mul_add, List.replicate_succ] using h
    | cons d before =>
      obtain ⟨rfl, hrest⟩ := List.cons.inj h
      cases before with
      | nil => exact absurd rfl hbefore
      | cons d before =>
        obtain ⟨rfl, rfl⟩ := List.cons.inj hrest
        refine ⟨before, n, behind, rfl, ?_, hbehind⟩
        cases before with
        | nil => simp
        | cons d before => simpa using hbefore
  · rintro ⟨before, n, behind, rfl, hbefore, hbehind⟩
    cases before with
    | nil =>
      refine ⟨[], n + 1, behind, ?_, hbefore, hbehind⟩
      simp [Nat.mul_add, List.replicate_succ]
    | cons d before =>
      refine ⟨q :: q :: d :: before, n, behind, rfl, ?_, hbehind⟩
      simpa using hbefore

/-- The reader fails exactly where quotes are left without a twin. -/
theorem undouble?_eq_none_iff : undouble? q cs = none ↔ HasOddRun q cs := by
  induction cs using undouble?.induct q with
  | case1 => simp [undouble?, not_hasOddRun_nil]
  | case2 =>
    have hodd : HasOddRun q [q] := hasOddRun_single (by simp)
    simp [undouble?, hodd]
  | case3 c hc => simp [undouble?, hc, hasOddRun_cons_of_ne hc, not_hasOddRun_nil]
  | case4 cs ih =>
    rw [undouble?, if_pos rfl, if_pos rfl, Option.map_eq_none_iff, ih, hasOddRun_twice]
  | case5 d cs hd =>
    have hodd : HasOddRun q (q :: d :: cs) := hasOddRun_single (by simpa using hd)
    simp [undouble?, hd, hodd]
  | case6 c d cs hc ih =>
    rw [undouble?, if_neg hc, Option.map_eq_none_iff, ih, hasOddRun_cons_of_ne hc]

end Text.Quoted

namespace Ident
open Text.Quoted
variable {letter : Char → Bool} {q : Char} {t : String} {i : Ident}

private theorem needsQuoting_eq_true_iff :
    i.needsQuoting letter = true ↔
      (∃ c ∈ i.name.toList, isBareChar c letter = false) ∨
        ∀ c ∈ i.name.toList, c.isDigit = true := by
  simp [needsQuoting]

private theorem exists_inside_of_looksQuoted (h : LooksQuoted q ⟨t⟩) :
    ∃ cs, t.toList = q :: (cs ++ [q]) ∧ inside? q t.toList = some cs := by
  obtain ⟨cs, hcs⟩ := Option.isSome_iff_exists.mp (looksQuoted_iff.mp h)
  exact ⟨cs, inside?_eq_some_iff.mp hcs, hcs⟩

private theorem looksQuoted_of_toList_eq {cs : List Char} (h : t.toList = q :: (cs ++ [q])) :
    LooksQuoted q ⟨t⟩ := by
  rw [looksQuoted_iff, inside?_eq_some_iff.mpr h]
  rfl

private theorem unescape?_of_looksQuoted {cs : List Char} (h : inside? q t.toList = some cs) :
    unescape? q t letter = (undouble? q cs).map fun name => ⟨String.ofList name⟩ := by
  rw [unescape?, h]

private theorem unescape?_of_not_looksQuoted (h : ¬ LooksQuoted q ⟨t⟩) :
    unescape? q t letter = if needsQuoting ⟨t⟩ letter then none else some ⟨t⟩ := by
  rw [looksQuoted_iff, Option.not_isSome_iff_eq_none] at h
  rw [unescape?, h]

/-- What is read is what stands between the quotes, or else the text itself. -/
theorem unescape?_eq_some_iff :
    unescape? q t letter = some i ↔
      t.toList = enclose q i.name.toList ∨
        ¬ LooksQuoted q ⟨t⟩ ∧ needsQuoting ⟨t⟩ letter = false ∧ i = ⟨t⟩ := by
  by_cases h : LooksQuoted q ⟨t⟩
  · obtain ⟨cs, htext, hinside⟩ := exists_inside_of_looksQuoted h
    have hread : unescape? q t letter = some i ↔ cs = double q i.name.toList := by
      rw [unescape?_of_looksQuoted hinside, Option.map_eq_some_iff, ← undouble?_eq_some_iff]
      constructor
      · rintro ⟨name, hname, rfl⟩
        simpa using hname
      · intro hname
        exact ⟨i.name.toList, hname, by simp⟩
    simp [hread, htext, h, enclose]
  · have hquoted : t.toList ≠ enclose q i.name.toList := fun he =>
      h (looksQuoted_of_toList_eq he)
    rw [unescape?_of_not_looksQuoted h]
    cases hneeds : needsQuoting ⟨t⟩ letter <;> simp [hquoted, h, eq_comm]

/-- A refused text holds quotes without a twin between its ends, or it has no quotes around it and
is no bare name. -/
theorem unescape?_eq_none_iff :
    unescape? q t letter = none ↔
      (∃ cs, t.toList = q :: (cs ++ [q]) ∧ HasOddRun q cs) ∨
        ¬ LooksQuoted q ⟨t⟩ ∧ needsQuoting ⟨t⟩ letter = true := by
  by_cases h : LooksQuoted q ⟨t⟩
  · obtain ⟨cs, htext, hinside⟩ := exists_inside_of_looksQuoted h
    rw [unescape?_of_looksQuoted hinside, Option.map_eq_none_iff, undouble?_eq_none_iff]
    simp [htext, h]
  · have hquoted : ∀ cs, t.toList ≠ q :: (cs ++ [q]) := fun cs he =>
      h (looksQuoted_of_toList_eq he)
    rw [unescape?_of_not_looksQuoted h]
    simp [hquoted, h]

private theorem not_looksQuoted_singleton (q : Char) : ¬ LooksQuoted q ⟨String.singleton q⟩ := by
  rintro ⟨hlength, -, -⟩
  simp at hlength

/-- A name is spelled shorter than with quotes around it, so a quoted text is its spelling only if
it needs them. -/
theorem escape_eq_enclose_iff (h : t.toList = enclose q i.name.toList) :
    i.escape q letter = t ↔ i.needsQuoting letter = true := by
  cases hneeds : i.needsQuoting letter with
  | true =>
    rw [← String.toList_inj, toList_escape_of_needsQuoting hneeds, h]
    simp
  | false =>
    have hlong := length_le_length_double q i.name.toList
    have hne : i.name ≠ t := by
      rintro rfl
      have hlength := congrArg List.length h
      rw [enclose, List.length_append, List.length_cons, List.length_singleton] at hlength
      omega
    simp [escape_of_bare hneeds, hne]

/-- The reader of names accepts its grammar and nothing else, for every choice of letters. Refused
are the quoted texts with an odd run of inner quotes, and among the others those with a character
that cannot stand bare and those of digits only; a lone quote is one of these others. What is
accepted is the spelling of the name that is read, unless it is a name in quotes that it does not
need. -/
theorem unescape_accepts (letter : Char → Bool) (q : Char) :
    (∀ (t : String) (i : Ident), unescape? q t letter = some i ↔
      t.toList = enclose q i.name.toList ∨
        ¬ LooksQuoted q ⟨t⟩ ∧ needsQuoting ⟨t⟩ letter = false ∧ i = ⟨t⟩) ∧
    (∀ t : String, unescape? q t letter = none ↔
      (∃ cs, t.toList = q :: (cs ++ [q]) ∧ HasOddRun q cs) ∨
        ¬ LooksQuoted q ⟨t⟩ ∧ ((∃ c ∈ t.toList, isBareChar c letter = false) ∨
          ∀ c ∈ t.toList, c.isDigit = true)) ∧
    (unescape? q (String.singleton q) letter = none ↔
      isBareChar q letter = false ∨ q.isDigit = true) ∧
    ∀ (t : String) (i : Ident), unescape? q t letter = some i →
      (i.escape q letter = t ↔
        ¬ (t.toList = enclose q i.name.toList ∧ i.needsQuoting letter = false)) := by
  have hnone : ∀ t : String, unescape? q t letter = none ↔
      (∃ cs, t.toList = q :: (cs ++ [q]) ∧ HasOddRun q cs) ∨
        ¬ LooksQuoted q ⟨t⟩ ∧ ((∃ c ∈ t.toList, isBareChar c letter = false) ∨
          ∀ c ∈ t.toList, c.isDigit = true) := by
    intro t
    rw [unescape?_eq_none_iff, needsQuoting_eq_true_iff]
  refine ⟨fun t i => unescape?_eq_some_iff, hnone, ?_, ?_⟩
  · rw [hnone, String.toList_singleton]
    have hlooks := not_looksQuoted_singleton q
    have hquoted : ∀ cs, [q] ≠ q :: (cs ++ [q]) := by simp
    simp [hlooks, hquoted]
  · intro t i h
    obtain hquoted | ⟨hlooks, hbare, rfl⟩ := unescape?_eq_some_iff.mp h
    · rw [escape_eq_enclose_iff hquoted]
      simp [hquoted]
    · have hquoted : t.toList ≠ enclose q t.toList := fun he =>
        hlooks (looksQuoted_of_toList_eq he)
      simp [escape_of_bare hbare, hquoted]

/-- Quotes around a name that could stand bare are read, but the name is not spelled with them. -/
theorem unescape_accepts_needless :
    unescape? '\x60' "\x60a\x60" = some ⟨"a"⟩ ∧ (Ident.mk "a").escape '\x60' ≠ "\x60a\x60" ∧
    unescape? '\x60' "\x60a\x60b\x60" = none := by
  obtain ⟨hsome, hnone, -, hescape⟩ := unescape_accepts Text.isLetter '\x60'
  have hread : unescape? '\x60' "\x60a\x60" = some ⟨"a"⟩ := (hsome _ _).mpr (.inl (by decide))
  refine ⟨hread, fun he => ?_, (hnone _).mpr (.inl ⟨['a', '\x60', 'b'], by decide, ?_⟩)⟩
  · exact (hescape _ _ hread).mp he ⟨by decide, by decide⟩
  · exact ⟨['a'], 0, ['b'], rfl, by decide, by decide⟩

end Ident
end SqlTree
