import SqlTree.Text.Quoted

/-! Reading quoted texts: a text is accepted exactly if it was written by the rules, and it is read
as what it was written from. -/
namespace SqlTree.Text.Quoted
variable {q c : Char} {cs ds : List Char}

private theorem undouble?_cons_of_ne (hc : c ≠ q) (cs : List Char) :
    undouble? q (c :: cs) = (undouble? q cs).map (c :: ·) := by
  cases cs with
  | nil => simp [undouble?, hc]
  | cons d cs => rw [undouble?, if_neg hc]

theorem undouble?_double (q : Char) (cs : List Char) : undouble? q (double q cs) = some cs := by
  induction cs with
  | nil => rfl
  | cons c cs ih =>
    by_cases hc : c = q
    · subst hc
      rw [double, if_pos rfl, undouble?, if_pos rfl, if_pos rfl, ih]
      rfl
    · rw [double, if_neg hc, undouble?_cons_of_ne hc, ih]
      rfl

/-- The reader takes one character at a time, or a quote and its twin. -/
theorem eq_double_of_undouble? (h : undouble? q cs = some ds) : cs = double q ds := by
  induction cs using undouble?.induct q generalizing ds with
  | case1 =>
    obtain rfl : [] = ds := Option.some.inj h
    rfl
  | case2 => simp [undouble?] at h
  | case3 c hc =>
    rw [undouble?, if_neg hc] at h
    obtain rfl : [c] = ds := Option.some.inj h
    simp [double, hc]
  | case4 cs ih =>
    rw [undouble?, if_pos rfl, if_pos rfl] at h
    obtain ⟨es, hes, rfl⟩ := Option.map_eq_some_iff.mp h
    rw [double, if_pos rfl, ← ih hes]
  | case5 d cs hd =>
    rw [undouble?, if_pos rfl, if_neg hd] at h
    cases h
  | case6 c d cs hc ih =>
    rw [undouble?, if_neg hc] at h
    obtain ⟨es, hes, rfl⟩ := Option.map_eq_some_iff.mp h
    rw [double, if_neg hc, ← ih hes]

theorem undouble?_eq_some_iff : undouble? q cs = some ds ↔ cs = double q ds := by
  constructor
  · exact eq_double_of_undouble?
  · rintro rfl
    exact undouble?_double q ds

theorem length_le_length_double (q : Char) (cs : List Char) :
    cs.length ≤ (double q cs).length := by
  induction cs with
  | nil => exact Nat.le_refl _
  | cons c cs ih =>
    by_cases hc : c = q <;> simp [double, hc] <;> omega

theorem mem_double : c ∈ double q cs ↔ c ∈ cs := by
  induction cs with
  | nil => exact Iff.rfl
  | cons d cs ih =>
    by_cases hd : d = q
    · rw [double, if_pos hd, List.mem_cons, List.mem_cons, ih, List.mem_cons, hd, or_self_left]
    · rw [double, if_neg hd, List.mem_cons, ih, List.mem_cons]

private theorem double_eq_self (h : q ∉ cs) : double q cs = cs := by
  induction cs with
  | nil => rfl
  | cons c cs ih =>
    rw [List.mem_cons, not_or] at h
    rw [double, if_neg (Ne.symm h.1), ih h.2]

theorem literal_eq_of_not_mem {s : String} (h : '\x27' ∉ s.toList) :
    literal s = "\x27" ++ s ++ "\x27" := by
  rw [literal, enclose, double_eq_self h, ← String.toList_inj]
  simp

/-- Two ends are needed, and a text of one quote has only one. -/
theorem inside?_eq_some_iff : inside? q cs = some ds ↔ cs = q :: (ds ++ [q]) := by
  cases cs with
  | nil => simp [inside?]
  | cons c cs =>
    constructor
    · intro h
      rw [inside?, Option.ite_none_right_eq_some] at h
      obtain ⟨⟨rfl, hlast⟩, h⟩ := h
      obtain ⟨es, rfl⟩ := List.getLast?_eq_some_iff.mp hlast
      rw [List.dropLast_concat, Option.some.injEq] at h
      rw [h]
    · intro h
      obtain ⟨rfl, rfl⟩ := List.cons.inj h
      simp [inside?]

theorem inside?_enclose (q : Char) (cs : List Char) :
    inside? q (enclose q cs) = some (double q cs) :=
  inside?_eq_some_iff.mpr rfl

theorem inside?_isSome_iff :
    (inside? q cs).isSome ↔ 2 ≤ cs.length ∧ cs.head? = some q ∧ cs.getLast? = some q := by
  rw [Option.isSome_iff_exists]
  constructor
  · rintro ⟨ds, h⟩
    rw [inside?_eq_some_iff] at h
    subst h
    refine ⟨by simp, rfl, ?_⟩
    rw [← List.cons_append, List.getLast?_concat]
  · rintro ⟨hlength, hhead, hlast⟩
    cases cs with
    | nil => cases hhead
    | cons c cs =>
      obtain rfl : c = q := Option.some.inj hhead
      cases cs with
      | nil => simp at hlength
      | cons d cs => simpa [inside?] using hlast

theorem eq_of_end_enclose (h : c ∈ (enclose q cs).head? ∨ c ∈ (enclose q cs).getLast?) :
    c = q := by
  have hinside : (inside? q (enclose q cs)).isSome := by simp [inside?_enclose]
  obtain ⟨-, hhead, hlast⟩ := inside?_isSome_iff.mp hinside
  rw [hhead, hlast, or_self, Option.mem_def, Option.some.injEq] at h
  exact h.symm

end SqlTree.Text.Quoted
