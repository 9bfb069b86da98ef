import ArchLint.Document

/-!
Tables of a TOML document while it is read. A table is opened by a header, on the way to another
one, or by a dotted key, and how it was opened decides who may still add to it: a header may take
over a table that was only passed through, and a dotted key may add to what dotted keys opened.
-/

namespace ArchLint.Toml

/-- How a table was opened. -/
inductive Opening where
  | header
  | onTheWay
  | dottedKey
  deriving DecidableEq, Repr

mutual

/-- What a key leads to. -/
inductive Item where
  | value (d : Document)
  | table (t : Table)
  /-- Tables of one name, the latest first. -/
  | tables (latest : Table) (others : List Table)

/-- A table and its entries, the latest first. -/
inductive Table where
  | mk (opening : Opening) (entries : List (String × Item))

end

namespace Table

def opening : Table → Opening
  | mk o _ => o

def entries : Table → List (String × Item)
  | mk _ es => es

def empty (o : Opening) : Table := mk o []

def get? (t : Table) (key : String) : Option Item := t.entries.lookup key

/-- Puts an item in the place of what the key leads to. -/
def put (t : Table) (key : String) (item : Item) : Table :=
  mk t.opening ((key, item) :: t.entries.filter fun e => e.1 ≠ key)

/-- Changes the table at the end of a path, and opens those that are missing on it. A dotted key
leads into no table that a header opened. -/
def change (dotted : Bool) : (path : List String) → (Table → Option Table) → Table → Option Table
  | [], f, t => f t
  | key :: path, f, t =>
    match t.get? key with
    | none =>
      (change dotted path f (empty (if dotted then .dottedKey else .onTheWay))).map fun inner =>
        t.put key (.table inner)
    | some (.value _) => none
    | some (.table inner) =>
      if dotted ∧ inner.opening = .header then none
      else (change dotted path f inner).map fun inner => t.put key (.table inner)
    | some (.tables latest others) =>
      (change dotted path f latest).map fun latest => t.put key (.tables latest others)

/-- Adds the value of a key, to the table itself or to one that the dots before the key open. -/
def addValue (t : Table) (dots : List String) (key : String) (d : Document) : Option Table :=
  t.change true dots fun t =>
    if (t.opening = .dottedKey) = (dots = []) then none
    else if (t.get? key).isSome then none
    else some (t.put key (.value d))

/-- Opens the table of a header. -/
def openTable (t : Table) (way : List String) (key : String) : Option Table :=
  t.change false way fun t =>
    match t.get? key with
    | none => some (t.put key (.table (empty .header)))
    | some (.table inner) =>
      if inner.opening = .onTheWay then some (t.put key (.table (mk .header inner.entries))) else none
    | some _ => none

/-- Opens one more table of a header for several. -/
def openAnother (t : Table) (way : List String) (key : String) : Option Table :=
  t.change false way fun t =>
    match t.get? key with
    | none => some (t.put key (.tables (empty .header) []))
    | some (.tables latest others) => some (t.put key (.tables (empty .header) (latest :: others)))
    | some _ => none

end Table

mutual

def Item.toDocument : Item → Document
  | .value d => d
  | .table t => t.toDocument
  | .tables latest others => .list ((latest.toDocument :: tableDocuments others).reverse)

def Table.toDocument : Table → Document
  | .mk _ es => .table (entryDocuments es).reverse

def tableDocuments : List Table → List Document
  | [] => []
  | t :: ts => t.toDocument :: tableDocuments ts

def entryDocuments : List (String × Item) → List (Option String × Document)
  | [] => []
  | (k, i) :: es => (some k, i.toDocument) :: entryDocuments es

end

end ArchLint.Toml
