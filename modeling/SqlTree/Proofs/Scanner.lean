import SqlTree.Text.Quoted

/-! A scanner of SQL that knows three modes: code, inside a string and inside a quoted name. A quote
that is written twice stands for one, and any other quote ends the token it is in. -/
namespace SqlTree

inductive TokenKind where
  | string
  | name
  deriving DecidableEq

/-- What opens and closes a token when names are quoted by `q`. -/
def TokenKind.quote (q : Char) : TokenKind → Char
  | string => '\x27'
  | name => q

/-- A string or a quoted name, with doubled quotes read as one. -/
structure Token where
  kind : TokenKind
  content : String
  deriving DecidableEq

inductive Mode where
  | code
  /-- The characters read since the opening quote, the last one first. -/
  | inside (kind : TokenKind) (read : List Char)
  deriving DecidableEq

/-- The mode at the end of the text and the tokens found on the way. -/
def scan (q : Char) : Mode → List Char → Mode × List Token
  | m, [] => (m, [])
  | .code, c :: cs =>
    if c = '\x27' then scan q (.inside .string []) cs
    else if c = q then scan q (.inside .name []) cs
    else scan q .code cs
  | .inside k read, [c] =>
    if c = k.quote q then (.code, [⟨k, String.ofList read.reverse⟩])
    else (.inside k (c :: read), [])
  | .inside k read, c :: d :: cs =>
    if c = k.quote q then
      if d = k.quote q then scan q (.inside k (c :: read)) cs
      else
        let (m, ts) := scan q .code (d :: cs)
        (m, ⟨k, String.ofList read.reverse⟩ :: ts)
    else scan q (.inside k (c :: read)) (d :: cs)

/-- Neither strings nor names open or end in `cs`. -/
def Plain (q : Char) (cs : List Char) : Prop :=
  '\x27' ∉ cs ∧ q ∉ cs

/-- No quote stands first, so a quote before `cs` is not doubled. -/
def Apart (q : Char) (cs : List Char) : Prop :=
  ∀ c ∈ cs.head?, c ≠ '\x27' ∧ c ≠ q

/-- Where no quote follows, the scanner finds the tokens `ts` in `cs` and is back in code. -/
def Reads (q : Char) (cs : List Char) (ts : List Token) : Prop :=
  ∀ (rest : List Char) (m : Mode) (us : List Token), Apart q rest →
    scan q .code rest = (m, us) → scan q .code (cs ++ rest) = (m, ts ++ us)

variable {q : Char} {cs ds es : List Char} {ts us : List Token}

namespace Plain

theorem nil : Plain q [] := by simp [Plain]

theorem append (hc : Plain q cs) (hd : Plain q ds) : Plain q (cs ++ ds) := by
  obtain ⟨hstring, hname⟩ := hc
  obtain ⟨hstring', hname'⟩ := hd
  simp [Plain, *]

theorem apart (h : Plain q cs) : Apart q cs := by
  intro c hc
  have hmem : c ∈ cs := List.mem_of_mem_head? hc
  refine ⟨?_, ?_⟩
  · rintro rfl
    exact h.1 hmem
  · rintro rfl
    exact h.2 hmem

private theorem scan (h : Plain q cs) (rest : List Char) :
    scan q .code (cs ++ rest) = SqlTree.scan q .code rest := by
  induction cs with
  | nil => rfl
  | cons c cs ih =>
    obtain ⟨hstring, hname⟩ := h
    rw [List.mem_cons, not_or] at hstring hname
    have hc : c ≠ '\x27' ∧ c ≠ q := ⟨Ne.symm hstring.1, Ne.symm hname.1⟩
    rw [List.cons_append, SqlTree.scan, if_neg hc.1, if_neg hc.2]
    exact ih ⟨hstring.2, hname.2⟩

end Plain

/-- Only the first of two texts decides, unless it is empty. -/
theorem Apart.append (hc : Apart q cs) (hne : cs ≠ []) : Apart q (cs ++ ds) := by
  cases cs with
  | nil => exact absurd rfl hne
  | cons c cs => exact hc

section Inside
variable (k : TokenKind) (read rest : List Char)

private theorem scan_inside_of_ne {c : Char} (hc : c ≠ k.quote q) :
    scan q (.inside k read) (c :: rest) = scan q (.inside k (c :: read)) rest := by
  cases rest with
  | nil => simp [scan, hc]
  | cons d rest => rw [scan, if_neg hc]

private theorem scan_inside_twice :
    scan q (.inside k read) (k.quote q :: k.quote q :: rest) =
      scan q (.inside k (k.quote q :: read)) rest := by
  rw [scan, if_pos rfl, if_pos rfl]

private theorem scan_inside_end (h : rest.head? ≠ some (k.quote q)) :
    scan q (.inside k read) (k.quote q :: rest) =
      ((scan q .code rest).1, ⟨k, String.ofList read.reverse⟩ :: (scan q .code rest).2) := by
  cases rest with
  | nil => simp [scan]
  | cons d rest =>
    have hd : d ≠ k.quote q := fun hd => h (congrArg some hd)
    simp [scan, hd]

/-- Whatever the content is, doubling keeps the scanner inside, and the quote after it ends the
token. -/
private theorem scan_inside (h : rest.head? ≠ some (k.quote q)) :
    scan q (.inside k read) (Text.Quoted.double (k.quote q) cs ++ k.quote q :: rest) =
      ((scan q .code rest).1,
        ⟨k, String.ofList (read.reverse ++ cs)⟩ :: (scan q .code rest).2) := by
  induction cs generalizing read with
  | nil =>
    have hend := scan_inside_end k read rest h
    simpa [Text.Quoted.double] using hend
  | cons c cs ih =>
    have hread := ih (c :: read)
    rw [List.reverse_cons, List.append_assoc, List.singleton_append] at hread
    by_cases hc : c = k.quote q
    · subst hc
      rw [Text.Quoted.double, if_pos rfl, List.cons_append, List.cons_append, scan_inside_twice]
      exact hread
    · rw [Text.Quoted.double, if_neg hc, List.cons_append, scan_inside_of_ne k read _ hc]
      exact hread

end Inside

namespace Reads

theorem plain (h : Plain q cs) : Reads q cs [] := by
  intro rest m us _ hrest
  rw [h.scan, hrest]
  rfl

/-- An enclosed text is one token with exactly its content. -/
theorem enclose (k : TokenKind) (cs : List Char) (hq : q ≠ '\x27') :
    Reads q (Text.Quoted.enclose (k.quote q) cs) [⟨k, String.ofList cs⟩] := by
  intro rest m us hapart hrest
  have hend : rest.head? ≠ some (k.quote q) := by
    intro hhead
    have hc := hapart _ hhead
    cases k with
    | string => exact hc.1 rfl
    | name => exact hc.2 rfl
  have hopen : scan q .code (Text.Quoted.enclose (k.quote q) cs ++ rest) =
      scan q (.inside k []) (Text.Quoted.double (k.quote q) cs ++ k.quote q :: rest) := by
    cases k with
    | string => simp [Text.Quoted.enclose, scan, TokenKind.quote]
    | name => simp [Text.Quoted.enclose, scan, TokenKind.quote, hq]
  rw [hopen, scan_inside k [] rest hend, hrest]
  simp

theorem lead (hc : Plain q cs) (hd : Reads q ds ts) : Reads q (cs ++ ds) ts := by
  intro rest m us hapart hrest
  rw [List.append_assoc, hc.scan]
  exact hd rest m us hapart hrest

/-- What follows must start with a character that cannot double the quote before it. -/
theorem append (hc : Reads q cs ts) (hd : Reads q ds us) (hapart : Apart q ds) (hne : ds ≠ []) :
    Reads q (cs ++ ds) (ts ++ us) := by
  intro rest m vs hrest hscan
  have hmid : scan q .code (ds ++ rest) = (m, us ++ vs) := hd rest m vs hrest hscan
  have hall := hc (ds ++ rest) m (us ++ vs) (hapart.append hne) hmid
  simpa using hall

/-- A plain text between two parts keeps their tokens apart. -/
theorem join (hc : Reads q cs ts) (hd : Plain q ds) (hne : ds ≠ []) (he : Reads q es us) :
    Reads q (cs ++ ds ++ es) (ts ++ us) := by
  have hrest : Reads q (ds ++ es) us := lead hd he
  have hall := append hc hrest (hd.apart.append hne) (by simp [hne])
  rwa [← List.append_assoc] at hall

theorem enclosed (hd : Plain q ds) (hc : Reads q cs ts) (he : Plain q es) (hne : es ≠ []) :
    Reads q (ds ++ cs ++ es) ts := by
  have hinner : Reads q (cs ++ es) (ts ++ []) := append hc (plain he) he.apart hne
  rw [List.append_nil] at hinner
  rw [List.append_assoc]
  exact lead hd hinner

end Reads
end SqlTree
