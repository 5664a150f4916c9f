/-! Brackets, round and square ones. A text is nested if it closes every bracket that it opens, the
last one opened first, and no other bracket. -/
namespace SqlTree

/-- The bracket that closes an opening one. -/
def closer? : Char → Option Char
  | '(' => some ')'
  | '[' => some ']'
  | _ => none

def isCloser (c : Char) : Bool :=
  c == ')' || c == ']'

def isBracket (c : Char) : Bool :=
  (closer? c).isSome || isCloser c

/-- Whether `cs` closes its brackets and after them the brackets that are `due`, the first of these
first. -/
def closes (due : List Char) : List Char → Bool
  | [] => due.isEmpty
  | c :: cs =>
    match closer? c with
    | some d => closes (d :: due) cs
    | none => if isCloser c then due.head? == some c && closes due.tail cs else closes due cs

def Nested (cs : List Char) : Prop :=
  closes [] cs = true

instance : DecidablePred Nested := fun cs => inferInstanceAs (Decidable (closes [] cs = true))

variable {cs ds : List Char} {c d : Char}

private theorem isCloser_of_closer? (h : closer? c = some d) : isCloser d = true := by
  unfold closer? at h
  split at h <;> cases h <;> rfl

private theorem closer?_of_isCloser (h : isCloser c = true) : closer? c = none := by
  simp only [isCloser, Bool.or_eq_true, beq_iff_eq] at h
  rcases h with rfl | rfl <;> rfl

section Closes
variable {due : List Char}

private theorem closes_cons_opener (h : closer? c = some d) :
    closes due (c :: cs) = closes (d :: due) cs := by
  simp [closes, h]

private theorem closes_cons_closer (h : isCloser c = true) :
    closes due (c :: cs) = (due.head? == some c && closes due.tail cs) := by
  simp [closes, closer?_of_isCloser h, h]

private theorem closes_cons_of_not_isBracket (h : isBracket c = false) :
    closes due (c :: cs) = closes due cs := by
  simp only [isBracket, Bool.or_eq_false_iff, Option.isSome_eq_false_iff,
    Option.isNone_iff_eq_none] at h
  simp [closes, h.1, h.2]

/-- A text that closes what is due leaves the rest to what follows. -/
theorem closes_append (h : closes due cs = true) (later rest : List Char) :
    closes (due ++ later) (cs ++ rest) = closes later rest := by
  induction cs generalizing due with
  | nil =>
    obtain rfl : due = [] := List.isEmpty_iff.mp h
    rfl
  | cons c cs ih =>
    rw [List.cons_append]
    cases hopener : closer? c with
    | some d =>
      rw [closes_cons_opener hopener] at h ⊢
      exact ih h
    | none =>
      cases hcloser : isCloser c with
      | true =>
        rw [closes_cons_closer hcloser, Bool.and_eq_true, beq_iff_eq] at h
        obtain ⟨hhead, htail⟩ := h
        cases due with
        | nil => cases hhead
        | cons d due =>
          obtain rfl : d = c := Option.some.inj hhead
          rw [closes_cons_closer hcloser, List.cons_append, List.head?_cons, beq_self_eq_true,
            Bool.true_and, List.tail_cons]
          exact ih htail
      | false =>
        have hplain : isBracket c = false := by simp [isBracket, hopener, hcloser]
        rw [closes_cons_of_not_isBracket hplain] at h ⊢
        exact ih h

/-- An opening bracket at the end stays open. -/
private theorem closes_concat_opener (h : closer? c = some d) (cs : List Char) :
    closes due (cs ++ [c]) = false := by
  induction cs generalizing due with
  | nil => rw [List.nil_append, closes_cons_opener h, closes, List.isEmpty_cons]
  | cons b cs ih =>
    rw [List.cons_append, closes]
    split
    · exact ih
    · split
      · rw [ih, Bool.and_false]
      · exact ih

end Closes

namespace Nested

theorem nil : Nested [] := rfl

theorem closes_append (h : Nested cs) (due rest : List Char) :
    closes due (cs ++ rest) = closes due rest :=
  SqlTree.closes_append h due rest

theorem append (hc : Nested cs) (hd : Nested ds) : Nested (cs ++ ds) := by
  rw [Nested, hc.closes_append]
  exact hd

theorem enclose (h : closer? c = some d) (hc : Nested cs) : Nested (c :: (cs ++ [d])) := by
  rw [Nested, closes_cons_opener h, hc.closes_append, closes_cons_closer (isCloser_of_closer? h)]
  simp [closes]

theorem of_not_isBracket (h : ∀ c ∈ cs, isBracket c = false) : Nested cs := by
  induction cs with
  | nil => exact nil
  | cons c cs ih =>
    have hrest : Nested cs := ih fun d hd => h d (List.mem_cons_of_mem c hd)
    rw [Nested, closes_cons_of_not_isBracket (h c List.mem_cons_self)]
    exact hrest

theorem isCloser_head (h : Nested cs) : ∀ c ∈ cs.head?, isCloser c = false := by
  intro c hc
  cases cs with
  | nil => cases hc
  | cons b cs =>
    obtain rfl : b = c := by simpa using hc
    cases hcloser : isCloser b with
    | false => rfl
    | true =>
      rw [Nested, closes_cons_closer hcloser] at h
      cases h

theorem closer?_getLast (h : Nested cs) : ∀ c ∈ cs.getLast?, closer? c = none := by
  intro c hc
  obtain ⟨ds, rfl⟩ := List.getLast?_eq_some_iff.mp hc
  cases hopener : closer? c with
  | none => rfl
  | some d =>
    rw [Nested, closes_concat_opener hopener] at h
    cases h

end Nested
end SqlTree
