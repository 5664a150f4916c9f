/-! Quoted texts: a quote character opens and closes the text, and inside it is written twice. -/
namespace SqlTree.Text.Quoted

/-- Write every `q` twice and all else once. -/
def double (q : Char) : List Char → List Char
  | [] => []
  | c :: cs => if c = q then q :: q :: double q cs else c :: double q cs

/-- Read doubled text back; a `q` that is not followed by its twin has no reading. -/
def undouble? (q : Char) : List Char → Option (List Char)
  | [] => some []
  | [c] => if c = q then none else some [c]
  | c :: d :: cs =>
    if c = q then
      if d = q then (undouble? q cs).map (q :: ·) else none
    else (undouble? q (d :: cs)).map (c :: ·)

def enclose (q : Char) (cs : List Char) : List Char :=
  q :: double q cs ++ [q]

/-- What stands between an opening and a closing `q`. One `q` cannot be both. -/
def inside? (q : Char) : List Char → Option (List Char)
  | [] => none
  | c :: cs => if c = q ∧ cs.getLast? = some q then some cs.dropLast else none

/-- A string literal of SQL, between single quotes. -/
def literal (text : String) : String :=
  String.ofList (enclose '\x27' text.toList)

end SqlTree.Text.Quoted
