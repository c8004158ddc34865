import TermView.Toml.Scalar
import TermView.Toml.Token

/-!
TOML documents. A document is read in four steps: tokens, trees, statements, and the table that
the statements build up. Any fault makes the whole document unreadable, whatever its place.
-/

namespace TermView.Toml

inductive Piece where
  | token (t : Token)
  | value (v : Value)

namespace Piece

def isComma : Piece → Bool
  | .token .comma => true
  | _ => false

def isEquals : Piece → Bool
  | .token .equals => true
  | _ => false

def isSpace : Piece → Bool
  | .token (.blank _) | .token .comment => true
  | _ => false

def isSpaceOrLine (p : Piece) : Bool :=
  p.isSpace || match p with
    | .token .newline => true
    | _ => false

def bare? : Piece → Option (List Char)
  | .token (.word cs) | .token (.blank cs) => some cs
  | .token .dot => some ['.']
  | _ => none

end Piece

def strip (isSpace : Piece → Bool) (ps : List Piece) : List Piece :=
  ((ps.dropWhile isSpace).reverse.dropWhile isSpace).reverse

def value? (ps : List Piece) : Option Value :=
  match ps with
  | [.value v] => some v
  | [.token (.quoted cs _)] => some (.string (String.ofList cs))
  | ps => do scalar? (← ps.mapM Piece.bare?).flatten

def isBareKey (cs : List Char) : Bool := cs.all fun c => c.isAlphanum || c == '_' || c == '-'

def keyPart? : Piece → Option String
  | .token (.word cs) => if isBareKey cs then some (String.ofList cs) else none
  | .token (.quoted cs false) => some (String.ofList cs)
  | _ => none

def depthLimit : Nat := 80

def isDot : Piece → Bool
  | .token .dot => true
  | _ => false

def key? (ps : List Piece) : Option (List String) := do
  let parts ← (separate isDot ps).mapM fun part =>
    match strip Piece.isSpace part with
    | [p] => keyPart? p
    | _ => none
  guard (parts.length < depthLimit)
  pure parts

def pair? (ps : List Piece) : Option (List String × Value) := do
  let key ← key? (ps.takeWhile (!·.isEquals))
  let value ← match ps.dropWhile (!·.isEquals) with
    | [] => none
    | _ :: rest => value? (strip Piece.isSpace rest)
  pure (key, value)

def array? (ps : List Piece) : Option Value := do
  let items := (separate Piece.isComma ps).map (strip Piece.isSpaceOrLine)
  let items := if items.getLast?.any List.isEmpty then items.dropLast else items
  pure (.array (← items.mapM value?))

def inlineTable? (ps : List Piece) : Option Value := do
  let pairs ← if (strip Piece.isSpace ps).isEmpty then some []
    else (separate Piece.isComma ps).mapM pair?
  (Entries.insertAll pairs []).map (.table .inline)

mutual

def Tree.piece? (depth : Nat) : Tree → Option Piece
  | .leaf t => some (.token t)
  | .group b content => do
    guard (depth + 1 < depthLimit)
    let ps ← pieces? (depth + 1) content
    match b with
    | .square => (array? ps).map .value
    | .curly => (inlineTable? ps).map .value

def pieces? (depth : Nat) : List Tree → Option (List Piece)
  | [] => some []
  | t :: ts => do
    let p ← t.piece? depth
    let ps ← pieces? depth ts
    pure (p :: ps)

end

inductive Statement where
  | pair (key : List String) (v : Value)
  | header (inArray : Bool) (key : List String)

def Tree.isSpace : Tree → Bool
  | .leaf (.blank _) | .leaf .comment => true
  | _ => false

def Tree.isNewline : Tree → Bool
  | .leaf .newline => true
  | _ => false

def headerKey? (content : List Tree) : Option (List String) := do
  let ps ← content.mapM fun
    | .leaf t => some (Piece.token t)
    | .group _ _ => none
  key? ps

def statement? (line : List Tree) : Option (Option Statement) :=
  match line.dropWhile Tree.isSpace with
  | [] => some none
  | .group .square content :: rest => do
    guard (rest.all Tree.isSpace)
    match content with
    | [.group .square inner] => (headerKey? inner).map (some <| .header true ·)
    | content => (headerKey? content).map (some <| .header false ·)
  | line => do
    let (key, v) ← pair? (← pieces? 0 line)
    pure (some (.pair key v))

structure Section where
  inArray : Bool
  key : List String
  pairs : List (List String × Value)

def sections : List Statement → List (List String × Value) × List Section
  | [] => ([], [])
  | .pair key v :: rest => ((key, v) :: (sections rest).1, (sections rest).2)
  | .header inArray key :: rest => ([], ⟨inArray, key, (sections rest).1⟩ :: (sections rest).2)

/-- What a header makes of the value it names. A table has one header, but may have been a parent
before; an array of tables gets one more. -/
def Section.apply (s : Section) : Option Value → Option Value
  | none =>
    (Entries.insertAll s.pairs []).map fun es =>
      if s.inArray then .tables [es] else .table .header es
  | some (.table .parent es) =>
    if s.inArray then none else (Entries.insertAll s.pairs es).map (.table .header)
  | some (.tables items) =>
    if s.inArray then (Entries.insertAll s.pairs []).map fun es => .tables (items ++ [es]) else none
  | some _ => none

def document? (statements : List Statement) : Option Entries := do
  let (pairs, sections) := sections statements
  sections.foldlM (fun root s => Entries.define s.apply s.key root) (← Entries.insertAll pairs [])

def parse? (text : String) : Option Entries := do
  let cs := match text.toList with
    | '\ufeff' :: cs => cs
    | cs => cs
  let trees ← nest [] [] (← scan cs)
  let statements ← (separate Tree.isNewline trees).mapM statement?
  document? (statements.filterMap id)

end TermView.Toml
