import TermView.Text.Basic

namespace TermView.Toml

inductive Bracket where
  | square
  | curly
deriving DecidableEq

inductive Token where
  | word (text : List Char)
  | dot
  | equals
  | comma
  | blank (text : List Char)
  | comment
  | newline
  | opening (b : Bracket)
  | closing (b : Bracket)
  | quoted (text : List Char) (multiline : Bool)
deriving DecidableEq

def isPlain (c : Char) : Bool := c == '\t' || (0x20 ≤ c.toNat && c.toNat != 0x7f)

def isBlank (c : Char) : Bool := c == ' ' || c == '\t'

def isWordChar (c : Char) : Bool := c.isAlphanum || c == '_' || c == '-' || c == '+' || c == ':'

def numbered? (n : Nat) (cs : List Char) : Option (Char × List Char) :=
  if cs.length < n then none
  else
    ((hexNumber? (cs.take n)).filter fun code => code.isValidChar).map fun code =>
      (Char.ofNat code, cs.drop n)

theorem numbered?_length {n : Nat} {cs rest : List Char} {c : Char}
    (h : numbered? n cs = some (c, rest)) : rest.length ≤ cs.length := by
  rw [numbered?] at h
  split at h
  · contradiction
  · simp only [Option.map_eq_some_iff, Prod.mk.injEq] at h
    obtain ⟨_, _, _, rfl⟩ := h
    simp

def unescape? : List Char → Option (Char × List Char)
  | 'b' :: cs => some ('\x08', cs)
  | 't' :: cs => some ('\t', cs)
  | 'n' :: cs => some ('\n', cs)
  | 'f' :: cs => some ('\x0c', cs)
  | 'r' :: cs => some ('\r', cs)
  | '"' :: cs => some ('"', cs)
  | '\\' :: cs => some ('\\', cs)
  | 'u' :: cs => numbered? 4 cs
  | 'U' :: cs => numbered? 8 cs
  | _ => none

theorem unescape?_length {cs rest : List Char} {c : Char} (h : unescape? cs = some (c, rest)) :
    rest.length < cs.length := by
  unfold unescape? at h
  split at h <;> grind [→ numbered?_length]

def readBasic (acc cs : List Char) : Option (List Char × List Char) :=
  match cs with
  | [] => none
  | '"' :: cs => some (acc.reverse, cs)
  | '\\' :: cs =>
    match _h : unescape? cs with
    | none => none
    | some (c, rest) => readBasic (c :: acc) rest
  | c :: cs => if isPlain c then readBasic (c :: acc) cs else none
termination_by cs.length
decreasing_by all_goals grind [→ unescape?_length]

def isLiteral (c : Char) : Bool := isPlain c && c != '\''

def readLiteral (cs : List Char) : Option (List Char × List Char) :=
  match cs.dropWhile isLiteral with
  | '\'' :: rest => some (cs.takeWhile isLiteral, rest)
  | _ => none

/-- Where three quotes in a row close a text, up to two more before them belong to it: what is
left of the text, and what follows the closing quotes. -/
def close? (quote : Char) (cs : List Char) : Option (List Char × List Char) :=
  let run := (cs.takeWhile (· == quote)).length
  if run < 3 then none
  else
    let extra := min run 5 - 3
    some (List.replicate extra quote, cs.drop (3 + extra))

/-- The text between three quotes. `skip` is set from a backslash that ends a line up to the next
character that is neither blank nor a newline. -/
def readMultilineBasic (skip : Bool) (acc cs : List Char) : Option (List Char × List Char) :=
  match cs with
  | [] => none
  | '\r' :: '\n' :: cs => readMultilineBasic skip (if skip then acc else '\n' :: acc) cs
  | '\n' :: cs => readMultilineBasic skip (if skip then acc else '\n' :: acc) cs
  | '"' :: cs =>
    match close? '"' ('"' :: cs) with
    | some (extra, rest) => some (acc.reverse ++ extra, rest)
    | none => readMultilineBasic false ('"' :: acc) cs
  | '\\' :: cs =>
    match cs.dropWhile isBlank with
    | '\n' :: _ | '\r' :: '\n' :: _ => readMultilineBasic true acc cs
    | _ =>
      match _h : unescape? cs with
      | none => none
      | some (c, rest) => readMultilineBasic false (c :: acc) rest
  | c :: cs =>
    if skip && isBlank c then readMultilineBasic true acc cs
    else if isPlain c then readMultilineBasic false (c :: acc) cs
    else none
termination_by cs.length
decreasing_by all_goals grind [→ unescape?_length]

def readMultilineLiteral (acc : List Char) : List Char → Option (List Char × List Char)
  | [] => none
  | '\r' :: '\n' :: cs => readMultilineLiteral ('\n' :: acc) cs
  | '\'' :: cs =>
    match close? '\'' ('\'' :: cs) with
    | some (extra, rest) => some (acc.reverse ++ extra, rest)
    | none => readMultilineLiteral ('\'' :: acc) cs
  | c :: cs => if isPlain c || c == '\n' then readMultilineLiteral (c :: acc) cs else none

theorem readBasic_length {acc cs text rest : List Char}
    (h : readBasic acc cs = some (text, rest)) : rest.length < cs.length := by
  fun_induction readBasic acc cs <;> grind [→ unescape?_length]

theorem readLiteral_length {cs text rest : List Char} (h : readLiteral cs = some (text, rest)) :
    rest.length < cs.length := by
  unfold readLiteral at h
  split at h
  next r hr =>
    have := (List.dropWhile_sublist isLiteral (l := cs)).length_le
    grind
  next => simp at h

theorem close?_length {quote : Char} {cs extra rest : List Char} (hc : cs ≠ [])
    (h : close? quote cs = some (extra, rest)) : rest.length < cs.length := by
  have : 0 < cs.length := List.length_pos_iff.2 hc
  grind [close?]

theorem readMultilineBasic_length {skip : Bool} {acc cs text rest : List Char}
    (h : readMultilineBasic skip acc cs = some (text, rest)) : rest.length < cs.length := by
  fun_induction readMultilineBasic skip acc cs <;> grind [→ unescape?_length, → close?_length]

theorem readMultilineLiteral_length {acc cs text rest : List Char}
    (h : readMultilineLiteral acc cs = some (text, rest)) : rest.length < cs.length := by
  fun_induction readMultilineLiteral acc cs <;> grind [→ close?_length]

def afterOpening : List Char → List Char
  | '\r' :: '\n' :: cs => cs
  | '\n' :: cs => cs
  | cs => cs

theorem afterOpening_length (cs : List Char) : (afterOpening cs).length ≤ cs.length := by
  unfold afterOpening
  split <;> grind

def quoted? : Char → List Char → Option (Token × List Char)
  | '"', '"' :: '"' :: cs =>
    (readMultilineBasic false [] (afterOpening cs)).map fun r => (.quoted r.1 true, r.2)
  | '"', cs => (readBasic [] cs).map fun r => (.quoted r.1 false, r.2)
  | _, '\'' :: '\'' :: cs =>
    (readMultilineLiteral [] (afterOpening cs)).map fun r => (.quoted r.1 true, r.2)
  | _, cs => (readLiteral cs).map fun r => (.quoted r.1 false, r.2)

theorem quoted?_length {quote : Char} {cs rest : List Char} {t : Token}
    (h : quoted? quote cs = some (t, rest)) : rest.length < cs.length := by
  unfold quoted? at h
  split at h <;> simp only [Option.map_eq_some_iff, Prod.mk.injEq, Prod.exists] at h <;>
    obtain ⟨_, _, h, _, rfl⟩ := h
  · grind [→ readMultilineBasic_length, afterOpening_length]
  · grind [→ readBasic_length]
  · grind [→ readMultilineLiteral_length, afterOpening_length]
  · grind [→ readLiteral_length]

def punctuation? : Char → Option Token
  | '.' => some .dot
  | '=' => some .equals
  | ',' => some .comma
  | '[' => some (.opening .square)
  | ']' => some (.closing .square)
  | '\x7b' => some (.opening .curly)
  | '\x7d' => some (.closing .curly)
  | _ => none

def token? : Char → List Char → Option (Token × List Char)
  | '\n', cs => some (.newline, cs)
  | '\r', '\n' :: cs => some (.newline, cs)
  | '#', cs => some (.comment, cs.dropWhile isPlain)
  | '"', cs => quoted? '"' cs
  | '\'', cs => quoted? '\'' cs
  | c, cs =>
    if isBlank c then some (.blank (c :: cs.takeWhile isBlank), cs.dropWhile isBlank)
    else if isWordChar c then
      some (.word (c :: cs.takeWhile isWordChar), cs.dropWhile isWordChar)
    else (punctuation? c).map (·, cs)

theorem token?_length {c : Char} {cs rest : List Char} {t : Token}
    (h : token? c cs = some (t, rest)) : rest.length ≤ cs.length := by
  have hd (p : Char → Bool) := (List.dropWhile_sublist p (l := cs)).length_le
  unfold token? at h
  split at h
  · simp_all
  · grind
  · grind
  · exact Nat.le_of_lt (quoted?_length h)
  · exact Nat.le_of_lt (quoted?_length h)
  · split at h
    · grind
    · split at h <;> grind [Option.map_eq_some_iff]

def scan (cs : List Char) : Option (List Token) :=
  match cs with
  | [] => some []
  | c :: cs =>
    match _h : token? c cs with
    | none => none
    | some (t, rest) => (scan rest).map (t :: ·)
termination_by cs.length
decreasing_by
  have := token?_length _h
  simp
  omega

inductive Tree where
  | leaf (t : Token)
  | group (b : Bracket) (content : List Tree)

/-- Nests tokens. `outer` holds the open brackets, innermost first, with the trees before each,
and `inner` the trees since the last of them; trees are kept last one first. -/
def nest (outer : List (Bracket × List Tree)) (inner : List Tree) :
    List Token → Option (List Tree)
  | [] => if outer.isEmpty then some inner.reverse else none
  | .opening b :: ts => nest ((b, inner) :: outer) [] ts
  | .closing b :: ts =>
    match outer with
    | [] => none
    | (b', before) :: outer =>
      if b = b' then nest outer (.group b inner.reverse :: before) ts else none
  | t :: ts => nest outer (.leaf t :: inner) ts

end TermView.Toml
