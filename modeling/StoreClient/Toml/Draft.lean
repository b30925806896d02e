import StoreClient.Toml.Key
import StoreClient.Toml.Value

/-!
# Tables under construction

A document defines its tables piece by piece, and what may still be added to a table depends on how
it came to be. A draft keeps that; `Draft.finish` forgets it when the document is complete.
-/

namespace StoreClient.Toml

/-- How a table came to be. -/
inductive Origin where
  /-- By a header of its own, or between braces. -/
  | explicit
  /-- As a table on the way to that of a header. -/
  | implied
  /-- As a table on the way to a value under a dotted key. -/
  | dotted
deriving DecidableEq, Repr

/-- What stands under a key of an unfinished document. -/
inductive Draft where
  /-- A finished value. -/
  | value (v : Value)
  /-- A table. -/
  | table (origin : Origin) (entries : List (String × Draft))
  /-- An array of tables, each with a header of its own. -/
  | tables (elements : List (List (String × Draft)))

/-- The entries of an unfinished table. -/
abbrev DraftTable := List (String × Draft)

namespace DraftTable

/-- Changes what stands under a name, in its place, or adds an entry. -/
def alter (name : String) (f : Option Draft → Option Draft) : DraftTable → Option DraftTable
  | [] => (f none).map fun d => [(name, d)]
  | (n, d) :: es =>
    if n = name then (f (some d)).map fun d => (n, d) :: es
    else (alter name f es).map ((n, d) :: ·)

/-- Changes the last of the tables. -/
def alterLast (f : DraftTable → Option DraftTable) : List DraftTable → Option (List DraftTable)
  | [] => none
  | [t] => (f t).map ([·])
  | t :: ts => (alterLast f ts).map (t :: ·)

/-- Puts a value under a dotted key. The tables on the way come to be by dotted keys alone; other
tables may lie on the way only if no header of their own defines them, and not right before the
value. -/
def assign : (path : List String) → (name : String) → Value → DraftTable → Option DraftTable
  | [], name, v, es => alter name (fun d => if d.isSome then none else some (.value v)) es
  | n :: path, name, v, es =>
    alter n (fun
      | none => (assign path name v []).map (.table .dotted)
      | some (.table origin sub) =>
        if origin = .dotted ∨ (origin = .implied ∧ path ≠ []) then
          (assign path name v sub).map (.table origin)
        else none
      | some (.tables ts) =>
        if path ≠ [] then (alterLast (assign path name v) ts).map .tables else none
      | some (.value _) => none) es

/-- Puts values under keys, one after the other. -/
def assignAll (es : DraftTable) (assignments : List (Key × Value)) : Option DraftTable :=
  assignments.foldlM (fun es (k, v) => assign k.path k.name v es) es

/-- Changes the table at a path; tables on the way that do not exist yet are implied. Of an array of
tables the last one lies on the way. -/
def descend (f : DraftTable → Option DraftTable) :
    (path : List String) → DraftTable → Option DraftTable
  | [], es => f es
  | n :: path, es =>
    alter n (fun
      | none => (descend f path []).map (.table .implied)
      | some (.table origin sub) => (descend f path sub).map (.table origin)
      | some (.tables ts) => (alterLast (descend f path) ts).map .tables
      | some (.value _) => none) es

/-- Defines a table of the parent by a header and what stands below it. A table that was implied so
far keeps its entries and moves to the end. -/
def define (name : String) (assignments : List (Key × Value)) (parent : DraftTable) :
    Option DraftTable := do
  let earlier ← match parent.lookup name with
    | none => some []
    | some (.table .implied es) => some es
    | some _ => none
  let es ← assignAll earlier assignments
  return parent.filter (·.1 ≠ name) ++ [(name, .table .explicit es)]

/-- Adds a table to an array of tables of the parent. -/
def push (name : String) (assignments : List (Key × Value)) (parent : DraftTable) :
    Option DraftTable := do
  let es ← assignAll [] assignments
  alter name (fun
    | none => some (.tables [es])
    | some (.tables ts) => some (.tables (ts ++ [es]))
    | some _ => none) parent

end DraftTable

mutual

/-- The value that a draft has come to. -/
def Draft.finish : Draft → Value
  | .value v => v
  | .table _ es => .table (Draft.finishEntries es)
  | .tables ts => .tables (Draft.finishTables ts)

/-- The entries of a table. -/
def Draft.finishEntries : List (String × Draft) → Table
  | [] => []
  | (name, d) :: es => (name, Draft.finish d) :: Draft.finishEntries es

/-- The elements of an array of tables. -/
def Draft.finishTables : List (List (String × Draft)) → List Table
  | [] => []
  | t :: ts => Draft.finishEntries t :: Draft.finishTables ts

end

end StoreClient.Toml
