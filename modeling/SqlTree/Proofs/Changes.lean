import Mathlib.Data.List.DropRight

/-! What a list of changes leaves of a value. A part that some changes replace and others add to
holds what the last replacement gave and all that was added since. Most parts are only replaced or
only added to. -/
namespace SqlTree.Changes
variable {σ κ φ ι : Type}

/-- The last value that one of the changes gives. -/
def last? (given? : κ → Option φ) (changes : List κ) : Option φ :=
  (changes.filterMap given?).getLast?

/-- The changes behind the last one that gives a value, all of them if none does. -/
def since (given? : κ → Option φ) (changes : List κ) : List κ :=
  changes.rtakeWhile fun k => (given? k).isNone

section
variable {given? : κ → Option φ} {changes : List κ} {k : κ}

private theorem last?_concat_some {a : φ} (h : given? k = some a) :
    last? given? (changes ++ [k]) = some a := by
  simp [last?, h]

private theorem last?_concat_none (h : given? k = none) :
    last? given? (changes ++ [k]) = last? given? changes := by
  simp [last?, h]

theorem last?_concat (given? : κ → Option φ) (changes : List κ) (k : κ) :
    last? given? (changes ++ [k]) = (given? k).or (last? given? changes) := by
  cases h : given? k with
  | none => exact last?_concat_none h
  | some a => exact last?_concat_some h

private theorem since_concat_some {a : φ} (h : given? k = some a) :
    since given? (changes ++ [k]) = [] := by
  simp [since, h]

private theorem since_concat_none (h : given? k = none) :
    since given? (changes ++ [k]) = since given? changes ++ [k] := by
  simp [since, h]

private theorem since_eq_self (h : ∀ k ∈ changes, given? k = none) :
    since given? changes = changes := by
  refine List.rtakeWhile_eq_self_iff.mpr fun k hk => ?_
  rw [h k hk, Option.isNone_none]

private theorem last?_map_some (given? : κ → Option φ) (changes : List κ) :
    last? (fun k => (given? k).map some) changes = (last? given? changes).map some := by
  have hmap : changes.filterMap (fun k => (given? k).map some) =
      (changes.filterMap given?).map some := List.map_filterMap.symm
  rw [last?, last?, hmap, List.getLast?_map]

end

/-- The same changes of each field, in the same order. -/
def SameByField {ψ : Type} [DecidableEq ψ] (field : κ → ψ) (changes changes' : List κ) : Prop :=
  ∀ f, changes.filter (field · = f) = changes'.filter (field · = f)

section
variable {ψ : Type} [DecidableEq ψ] {field : κ → ψ} {given? : κ → Option φ} {item? : κ → Option ι}
  {changes changes' : List κ} {f : ψ}

/-- A field is told by the changes of that field. -/
theorem filterMap_filter_field (h : ∀ k, field k ≠ f → given? k = none) (changes : List κ) :
    (changes.filter (field · = f)).filterMap given? = changes.filterMap given? := by
  rw [List.filterMap_filter]
  refine List.filterMap_congr fun k _ => ?_
  by_cases hk : field k = f
  · simp [hk]
  · simp [hk, h k hk]

private theorem since_filter_field (h : ∀ k, field k ≠ f → given? k = none) (changes : List κ) :
    since given? (changes.filter (field · = f)) = (since given? changes).filter (field · = f) := by
  induction changes using List.reverseRecOn with
  | nil => rfl
  | append_singleton changes k ih =>
    by_cases hk : field k = f
    · have hfilter : (changes ++ [k]).filter (field · = f) =
          changes.filter (field · = f) ++ [k] := by simp [hk]
      rw [hfilter]
      cases hg : given? k with
      | some a => rw [since_concat_some hg, since_concat_some hg]; rfl
      | none =>
        rw [since_concat_none hg, since_concat_none hg, ih]
        simp [hk]
    · have hfilter : (changes ++ [k]).filter (field · = f) = changes.filter (field · = f) := by
        simp [hk]
      rw [hfilter, ih, since_concat_none (h k hk)]
      simp [hk]

theorem SameByField.last? (hs : SameByField field changes changes')
    (h : ∀ k, field k ≠ f → given? k = none) :
    Changes.last? given? changes = Changes.last? given? changes' := by
  rw [Changes.last?, Changes.last?, ← filterMap_filter_field h, hs f, filterMap_filter_field h]

theorem SameByField.filterMap (hs : SameByField field changes changes')
    (h : ∀ k, field k ≠ f → item? k = none) :
    changes.filterMap item? = changes'.filterMap item? := by
  rw [← filterMap_filter_field h, hs f, filterMap_filter_field h]

theorem SameByField.since (hs : SameByField field changes changes')
    (hgiven : ∀ k, field k ≠ f → given? k = none) (hitem : ∀ k, field k ≠ f → item? k = none) :
    (Changes.since given? changes).filterMap item? =
      (Changes.since given? changes').filterMap item? := by
  rw [← filterMap_filter_field hitem, ← since_filter_field hgiven, hs f,
    since_filter_field hgiven, filterMap_filter_field hitem]

end

/-- Adding items one by one puts them behind those that are there; without items nothing happens. -/
private theorem foldl_push (items : φ → List ι) (wrap : List ι → φ)
    (hwrap : ∀ l, items (wrap l) = l) (a : φ) (added : List ι) :
    added.foldl (fun a i => wrap (items a ++ [i])) a =
      if added.isEmpty then a else wrap (items a ++ added) := by
  induction added using List.reverseRecOn with
  | nil => rfl
  | append_singleton added i ih =>
    rw [List.foldl_concat, ih]
    cases added <;> simp [hwrap]

section
variable (step : σ → κ → σ) (changes : List κ) (s : σ)

/-- A change that replaces makes an end of what was added before it. -/
private theorem foldl_part (part : σ → φ) (given? : κ → Option φ) (item? : κ → Option ι)
    (push : φ → ι → φ)
    (hstep : ∀ s k, part (step s k) = (given? k).getD ((item? k).elim (part s) (push (part s)))) :
    part (changes.foldl step s) =
      ((since given? changes).filterMap item?).foldl push
        ((last? given? changes).getD (part s)) := by
  -- the last change says whether what was added before it still counts
  induction changes using List.reverseRecOn with
  | nil => rfl
  | append_singleton changes k ih =>
    rw [List.foldl_concat, hstep, ih]
    cases hg : given? k with
    | some a =>
      rw [since_concat_some hg, last?_concat_some hg]
      rfl
    | none =>
      rw [since_concat_none hg, last?_concat_none hg, List.filterMap_append, List.foldl_append]
      cases hi : item? k <;> simp [hi]

/-- A part to which nothing is added. -/
theorem foldl_replaced (part : σ → φ) (given? : κ → Option φ)
    (hstep : ∀ s k, part (step s k) = (given? k).getD (part s)) :
    part (changes.foldl step s) = (last? given? changes).getD (part s) := by
  have hpart := foldl_part step changes s part given? (fun _ => (none : Option Unit))
    (fun a _ => a) hstep
  simpa using hpart

theorem foldl_kept (part : σ → φ) (hstep : ∀ s k, part (step s k) = part s) :
    part (changes.foldl step s) = part s := by
  have hpart := foldl_replaced step changes s part (fun _ => none) hstep
  simpa [last?] using hpart

/-- A part that is missing at first and that nothing takes away. -/
theorem foldl_given (part : σ → Option φ) (given? : κ → Option φ) (hs : part s = none)
    (hstep : ∀ s k, part (step s k) = (given? k).or (part s)) :
    part (changes.foldl step s) = last? given? changes := by
  have hpart := foldl_replaced step changes s part (fun k => (given? k).map some) fun s k => by
    rw [hstep]
    cases given? k <;> rfl
  rw [hpart, last?_map_some, hs]
  cases last? given? changes <;> rfl

/-- A part that is replaced or added to, where what was added is seen from outside. -/
theorem foldl_collected (part : σ → φ) (given? : κ → Option φ) (item? : κ → Option ι)
    (items : φ → List ι) (wrap : List ι → φ) (hwrap : ∀ l, items (wrap l) = l)
    (hstep : ∀ s k, part (step s k) =
      (given? k).getD ((item? k).elim (part s) fun i => wrap (items (part s) ++ [i]))) :
    part (changes.foldl step s) =
      if ((since given? changes).filterMap item?).isEmpty then (last? given? changes).getD (part s)
      else wrap (items ((last? given? changes).getD (part s)) ++
        (since given? changes).filterMap item?) := by
  rw [foldl_part step changes s part given? item? (fun a i => wrap (items a ++ [i])) hstep,
    foldl_push items wrap hwrap]

/-- Replacements without items of their own leave only those that were added behind the last one. -/
theorem foldl_renewed (part : σ → φ) (given? : κ → Option φ) (item? : κ → Option ι)
    (items : φ → List ι) (wrap : List ι → φ) (hwrap : ∀ l, items (wrap l) = l)
    (hs : items (part s) = []) (hgiven : ∀ k a, given? k = some a → items a = [])
    (hstep : ∀ s k, part (step s k) =
      (given? k).getD ((item? k).elim (part s) fun i => wrap (items (part s) ++ [i]))) :
    part (changes.foldl step s) =
      if ((since given? changes).filterMap item?).isEmpty then (last? given? changes).getD (part s)
      else wrap ((since given? changes).filterMap item?) := by
  have hlast : items ((last? given? changes).getD (part s)) = [] := by
    cases h : last? given? changes with
    | none => exact hs
    | some a =>
      obtain ⟨k, -, hk⟩ := List.mem_filterMap.mp (List.mem_of_getLast? h)
      exact hgiven k a hk
  rw [foldl_collected step changes s part given? item? items wrap hwrap hstep, hlast,
    List.nil_append]

/-- A list that nothing replaces. -/
theorem foldl_added (part : σ → List ι) (item? : κ → Option ι)
    (hstep : ∀ s k, part (step s k) = part s ++ (item? k).toList) :
    part (changes.foldl step s) = part s ++ changes.filterMap item? := by
  have hstep' : ∀ s k, part (step s k) =
      (none : Option (List ι)).getD ((item? k).elim (part s) fun i => part s ++ [i]) := by
    intro s k
    rw [hstep]
    cases item? k <;> simp
  have hpart := foldl_collected step changes s part (fun _ => none) item? id id (fun _ => rfl)
    hstep'
  rw [since_eq_self fun _ _ => rfl] at hpart
  rw [hpart]
  cases changes.filterMap item? <;> simp [last?]

end
end SqlTree.Changes
