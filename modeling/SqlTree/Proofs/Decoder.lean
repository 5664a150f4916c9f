import Mathlib.Data.List.Basic
import SqlTree.Value

/-! A decoder of literal values. The first character says which kind of literal follows, and every
literal says where it ends, so what stands behind it is left over. -/
namespace SqlTree

/-- Nothing that goes on where a literal has ended: no digit of a number, no twin of a quote. -/
def Detached (cs : List Char) : Prop :=
  ∀ c ∈ cs.head?, c.isDigit = false ∧ c ≠ '\x27'

theorem detached_empty : Detached "".toList := by
  simp [Detached]

theorem detached_cons {c : Char} (hdigit : c.isDigit = false) (hquote : c ≠ '\x27')
    (cs : List Char) : Detached (c :: cs) := by
  intro d hd
  obtain rfl : c = d := by simpa using hd
  exact ⟨hdigit, hquote⟩

namespace Text.Quoted

/-- Read on behind an opening quote, up to and including the quote that closes it. -/
def content? (q : Char) : List Char → Option (List Char × List Char)
  | [] => none
  | [c] => if c = q then some ([], []) else none
  | c :: d :: cs =>
    if c = q then
      if d = q then (content? q cs).map fun (content, rest) => (q :: content, rest)
      else some ([], d :: cs)
    else (content? q (d :: cs)).map fun (content, rest) => (c :: content, rest)

private theorem content?_cons_of_ne {q c : Char} (hc : c ≠ q) (cs : List Char) :
    content? q (c :: cs) =
      (content? q cs).map fun (content, rest) => (c :: content, rest) := by
  cases cs with
  | nil => simp [content?, hc]
  | cons d cs => rw [content?, if_neg hc]

theorem content?_double {q : Char} (cs : List Char) {rest : List Char} (h : rest.head? ≠ some q) :
    content? q (double q cs ++ q :: rest) = some (cs, rest) := by
  induction cs with
  | nil =>
    cases rest with
    | nil => simp [double, content?]
    | cons d rest =>
      have hd : d ≠ q := fun hd => h (congrArg some hd)
      simp [double, content?, hd]
  | cons c cs ih =>
    by_cases hc : c = q
    · subst hc
      rw [double, if_pos rfl, List.cons_append, List.cons_append, content?, if_pos rfl,
        if_pos rfl, ih]
      rfl
    · rw [double, if_neg hc, List.cons_append, content?_cons_of_ne hc, ih]
      rfl

end Text.Quoted

/-- The value of an upper-case digit, looked up among all sixteen. -/
def hexValue? (c : Char) : Option Nat :=
  (List.range 16).find? (upperHexDigit · = c)

/-- Two digits are one byte. -/
def bytes? : List Char → Option (List UInt8)
  | [] => some []
  | [_] => none
  | high :: low :: cs => do
    let h ← hexValue? high
    let l ← hexValue? low
    let bytes ← bytes? cs
    return .ofNat (16 * h + l) :: bytes

private theorem hexValue?_upperHexDigit : ∀ n < 16, hexValue? (upperHexDigit n) = some n := by
  decide

private theorem bytes?_upperHex (bytes : List UInt8) :
    bytes? (upperHex bytes).toList = some bytes := by
  rw [upperHex, String.toList_ofList]
  induction bytes with
  | nil => rfl
  | cons b bytes ih =>
    have hb := b.toNat_lt
    have hhigh := hexValue?_upperHexDigit (b.toNat / 16) (by omega)
    have hlow := hexValue?_upperHexDigit (b.toNat % 16) (by omega)
    have hbyte : UInt8.ofNat (16 * (b.toNat / 16) + b.toNat % 16) = b := by
      rw [Nat.div_add_mod, UInt8.ofNat_toNat]
    simp only [List.flatMap_cons, List.cons_append, List.nil_append, bytes?, hhigh, hlow, ih,
      Option.bind_eq_bind, Option.bind_some, hbyte]
    rfl

/-- All digits up to the first other character; there has to be one. -/
def natural? (cs : List Char) : Option (Nat × List Char) :=
  match cs.takeWhile Char.isDigit with
  | [] => none
  | digits => some (Nat.ofDigitChars 10 digits 0, cs.dropWhile Char.isDigit)

private theorem isDigit_of_mem_repr {n : Nat} {c : Char} (hc : c ∈ n.repr.toList) :
    c.isDigit = true := by
  rw [Nat.repr, String.toList_ofList] at hc
  exact Nat.isDigit_of_mem_toDigits (by omega) (by omega) hc

theorem exists_repr_eq_cons (n : Nat) :
    ∃ d ds, n.repr.toList = d :: ds ∧ d.isDigit = true := by
  cases hn : n.repr.toList with
  | nil =>
    rw [Nat.repr, String.toList_ofList] at hn
    exact absurd hn Nat.toDigits_ne_nil
  | cons d ds => exact ⟨d, ds, rfl, isDigit_of_mem_repr (by rw [hn]; exact List.mem_cons_self)⟩

theorem natural?_repr (n : Nat) {rest : List Char} (h : Detached rest) :
    natural? (n.repr.toList ++ rest) = some (n, rest) := by
  have hall : ∀ c ∈ n.repr.toList, c.isDigit = true := fun _ => isDigit_of_mem_repr
  have htake : rest.takeWhile Char.isDigit = [] := by
    cases rest with
    | nil => rfl
    | cons c rest => simp [(h c rfl).1]
  have hdrop : rest.dropWhile Char.isDigit = rest := by
    cases rest with
    | nil => rfl
    | cons c rest => simp [(h c rfl).1]
  rw [natural?, List.takeWhile_append_of_pos hall, List.dropWhile_append_of_pos hall, htake, hdrop,
    List.append_nil]
  obtain ⟨d, ds, hn, -⟩ := exists_repr_eq_cons n
  have hvalue : Nat.ofDigitChars 10 (d :: ds) 0 = n := by
    rw [← hn, Nat.repr, String.toList_ofList, Nat.ofDigitChars_toDigits]
    all_goals omega
  simp only [hn, hvalue]

namespace Value

/-- A sign makes a number signed, and all others are unsigned. -/
def number? : List Char → Option (Value × List Char)
  | '-' :: cs => (natural? cs).bind fun (n, rest) =>
    if Int64.minValue.toInt ≤ -n then some (.int (.ofInt (-n)), rest) else none
  | cs => (natural? cs).bind fun (n, rest) =>
    if n < UInt64.size then some (.uint (.ofNat n), rest) else none

def text? (cs : List Char) : Option (Value × List Char) :=
  (Text.Quoted.content? '\x27' cs).map fun (s, rest) => (.text (String.ofList s), rest)

def blob? : List Char → Option (Value × List Char)
  | '\x27' :: cs => do
    let (hex, rest) ← Text.Quoted.content? '\x27' cs
    let bytes ← bytes? hex
    return (.blob bytes, rest)
  | _ => none

def words : List (String × Value) :=
  [("NULL", .null), ("DEFAULT", .default), ("TRUE", .bool true), ("FALSE", .bool false)]

def word? (cs : List Char) : Option (Value × List Char) :=
  words.findSome? fun (word, v) => (cs.dropPrefix? word.toList).map (v, ·)

/-- A row behind its first letter. Unless it is empty, `items?` reads its values. -/
def row? (items? : List Char → Option (List Value × List Char)) :
    List Char → Option (Value × List Char)
  | 'O' :: 'W' :: '(' :: ')' :: rest => some (.row [], rest)
  | 'O' :: 'W' :: '(' :: cs => (items? cs).map fun (vs, rest) => (.row vs, rest)
  | _ => none

mutual

/-- One value and what follows it. Every value costs a unit of `fuel`, and so does every item of a
row. -/
def read? : Nat → List Char → Option (Value × List Char)
  | 0, _ => none
  | _ + 1, [] => none
  | fuel + 1, c :: cs =>
    if c = '\x27' then text? cs
    else if c = 'X' then blob? cs
    else if c = 'R' then row? (readItems? fuel) cs
    else if c = '-' ∨ c.isDigit then number? (c :: cs)
    else word? (c :: cs)

/-- One value or more, up to and including a closing parenthesis. -/
def readItems? : Nat → List Char → Option (List Value × List Char)
  | 0, _ => none
  | fuel + 1, cs =>
    match read? fuel cs with
    | some (v, ')' :: rest) => some ([v], rest)
    | some (v, ',' :: ' ' :: rest) =>
      (readItems? fuel rest).map fun (vs, rest) => (v :: vs, rest)
    | _ => none

end

/-! What the reader makes of each kind of literal. -/

section Kinds
variable {rest : List Char} (fuel : Nat)

theorem read?_text (s : String) (h : Detached rest) :
    read? (fuel + 1) ((Text.Quoted.literal s).toList ++ rest) = some (.text s, rest) := by
  have hend : rest.head? ≠ some '\x27' := fun hq => (h _ hq).2 rfl
  have hcontent := Text.Quoted.content?_double s.toList hend
  rw [Text.Quoted.literal, Text.Quoted.enclose, String.toList_ofList, List.cons_append,
    List.cons_append, List.append_assoc, List.singleton_append, read?, if_pos rfl, text?, hcontent]
  simp only [Option.map_some, String.ofList_toList]

theorem read?_blob (bytes : List UInt8) (h : Detached rest) :
    read? (fuel + 1) ('X' :: (Text.Quoted.literal (upperHex bytes)).toList ++ rest) =
      some (.blob bytes, rest) := by
  have hend : rest.head? ≠ some '\x27' := fun hq => (h _ hq).2 rfl
  have hcontent := Text.Quoted.content?_double (upperHex bytes).toList hend
  simp [Text.Quoted.literal, Text.Quoted.enclose, read?, blob?, hcontent, bytes?_upperHex]

private theorem read?_digit {d : Char} (hd : d.isDigit = true) (cs : List Char) :
    read? (fuel + 1) (d :: cs) = number? (d :: cs) := by
  have hquote : d ≠ '\x27' := by rintro rfl; cases hd
  have hblob : d ≠ 'X' := by rintro rfl; cases hd
  have hrow : d ≠ 'R' := by rintro rfl; cases hd
  rw [read?, if_neg hquote, if_neg hblob, if_neg hrow, if_pos (.inr hd)]

private theorem number?_digit {d : Char} (hd : d.isDigit = true) (cs : List Char) :
    number? (d :: cs) = (natural? (d :: cs)).bind fun (n, rest) =>
      if n < UInt64.size then some (.uint (.ofNat n), rest) else none := by
  have hsign : d ≠ '-' := by rintro rfl; cases hd
  unfold number?
  split
  · next heq => exact absurd (List.cons.inj heq).1 hsign
  · rfl

theorem read?_uint (n : UInt64) (h : Detached rest) :
    read? (fuel + 1) (n.toNat.repr.toList ++ rest) = some (.uint n, rest) := by
  have hnatural := natural?_repr n.toNat h
  have hlt := n.toNat_lt
  obtain ⟨d, ds, hn, hd⟩ := exists_repr_eq_cons n.toNat
  rw [hn, List.cons_append] at hnatural ⊢
  rw [read?_digit fuel hd, number?_digit hd, hnatural]
  simp only [Option.bind_some, if_pos hlt, UInt64.ofNat_toNat]

theorem read?_negative {n : Int64} (hn : n.toInt < 0) (h : Detached rest) :
    read? (fuel + 1) ('-' :: n.toInt.natAbs.repr.toList ++ rest) = some (.int n, rest) := by
  have hnatural := natural?_repr n.toInt.natAbs h
  have habs : -(n.toInt.natAbs : Int) = n.toInt := by omega
  have hmin : Int64.minValue.toInt ≤ n.toInt := n.minValue_le_toInt
  have hsign : read? (fuel + 1) ('-' :: n.toInt.natAbs.repr.toList ++ rest) =
      number? ('-' :: n.toInt.natAbs.repr.toList ++ rest) := by
    rw [List.cons_append, read?, if_neg (by decide), if_neg (by decide), if_neg (by decide),
      if_pos (.inl rfl)]
  rw [hsign, List.cons_append, number?, hnatural]
  simp only [Option.bind_some, habs, if_pos hmin, Int64.ofInt_toInt]

theorem read?_word {word : String} {v : Value} (h : (word, v) ∈ words) :
    read? (fuel + 1) (word.toList ++ rest) = some (v, rest) := by
  simp only [words, List.mem_cons, Prod.mk.injEq, List.not_mem_nil, or_false] at h
  obtain ⟨rfl, rfl⟩ | ⟨rfl, rfl⟩ | ⟨rfl, rfl⟩ | ⟨rfl, rfl⟩ := h <;>
    simp [read?, word?, words, List.dropPrefix?]

/-- No value starts with a closing parenthesis. -/
private theorem readItems?_close (cs : List Char) : readItems? fuel (')' :: cs) = none := by
  have hvalue : ∀ fuel, read? fuel (')' :: cs) = none := fun fuel => by
    cases fuel <;> simp [read?, word?, words, List.dropPrefix?]
  cases fuel with
  | zero => rw [readItems?]
  | succ fuel => rw [readItems?, hvalue]

theorem readItems?_last {cs : List Char} {v : Value} (h : read? fuel cs = some (v, ')' :: rest)) :
    readItems? (fuel + 1) cs = some ([v], rest) := by
  simp only [readItems?, h]

theorem readItems?_cons {cs others : List Char} {v : Value} {vs : List Value}
    (h : read? fuel cs = some (v, ',' :: ' ' :: others))
    (hvs : readItems? fuel others = some (vs, rest)) :
    readItems? (fuel + 1) cs = some (v :: vs, rest) := by
  simp only [readItems?, h, hvs, Option.map_some]

theorem read?_row {cs : List Char} {vs : List Value} (h : readItems? fuel cs = some (vs, rest)) :
    read? (fuel + 1) ("ROW(".toList ++ cs) = some (.row vs, rest) := by
  have hopen : ∀ tail, cs ≠ ')' :: tail := by
    rintro tail rfl
    rw [readItems?_close] at h
    cases h
  have hrow : row? (readItems? fuel) ('O' :: 'W' :: '(' :: cs) = some (.row vs, rest) := by
    rw [row?, h, Option.map_some]
    exact hopen
  simp [read?, hrow]

theorem read?_row_nil : read? (fuel + 1) ("ROW()".toList ++ rest) = some (.row [], rest) := by
  simp [read?, row?]

end Kinds

/-- A text has no more values and items than characters, so its length is fuel enough. -/
def decode? (sql : String) : Option (Value × String) :=
  (read? (sql.toList.length + 1) sql.toList).map fun (v, rest) => (v, String.ofList rest)

/-- A list of values is what a row has between its parentheses. -/
def decodeList? (sql : String) : Option (List Value) :=
  match decode? ("ROW(" ++ sql ++ ")") with
  | some (.row vs, rest) => if rest = "" then some vs else none
  | _ => none

end Value
end SqlTree
