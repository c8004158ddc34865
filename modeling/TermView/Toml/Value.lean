import TermView.Number.Binary

namespace TermView.Toml

/-- How a table came to be: by a header of its own, as the parent in a header, as the parent in a
dotted key, or between braces. -/
inductive Origin where
  | header
  | parent
  | dotted
  | inline
deriving DecidableEq

inductive Value where
  | string (text : String)
  | integer (n : Int)
  | float (x : Binary64)
  | boolean (b : Bool)
  | moment (text : String)
  | array (items : List Value)
  | table (origin : Origin) (entries : List (String × Value))
  | tables (items : List (List (String × Value)))

abbrev Entries := List (String × Value)

namespace Entries

def alter (name : String) (f : Option Value → Option Value) : Entries → Option Entries
  | [] => (f none).map fun v => [(name, v)]
  | (n, v) :: es =>
    if n = name then (f (some v)).map fun v => (n, v) :: es
    else (alter name f es).map ((n, v) :: ·)

def alterLast (f : Entries → Option Entries) : List Entries → Option (List Entries)
  | [] => none
  | [es] => (f es).map ([·])
  | es :: rest => (alterLast f rest).map (es :: ·)

/-- Adds a value under a dotted key. Each table on the way is a parent so far, or comes to be now;
the last of them has come to be by a dotted key. -/
def insert (v : Value) : List String → Entries → Option Entries
  | [], _ => none
  | [name], es => alter name (fun old => if old.isNone then some v else none) es
  | name :: next :: path, es => es |> alter name fun
    | none => (insert v (next :: path) []).map (.table .dotted)
    | some (.table .dotted inner) => (insert v (next :: path) inner).map (.table .dotted)
    | some (.table .parent inner) =>
      if path.isEmpty then none else (insert v (next :: path) inner).map (.table .parent)
    | some (.tables items) =>
      if path.isEmpty then none else (alterLast (insert v (next :: path)) items).map .tables
    | some _ => none

def insertAll (pairs : List (List String × Value)) (es : Entries) : Option Entries :=
  pairs.foldlM (fun es (key, v) => insert v key es) es

/-- Changes what a header names. Tables on the way come to be as parents, and of an array of tables
the last one is entered. -/
def define (f : Option Value → Option Value) : List String → Entries → Option Entries
  | [], _ => none
  | [name], es => alter name f es
  | name :: next :: path, es => es |> alter name fun
    | none => (define f (next :: path) []).map (.table .parent)
    | some (.table .inline _) => none
    | some (.table origin inner) => (define f (next :: path) inner).map (.table origin)
    | some (.tables items) => (alterLast (define f (next :: path)) items).map .tables
    | some _ => none

end Entries

end TermView.Toml
