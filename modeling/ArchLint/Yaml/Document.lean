import ArchLint.Document
import ArchLint.Yaml.Node

/-!
YAML nodes as documents. An alias stands for the node that was given its name last; a name that was
given to no node makes the whole document invalid. A node that contains itself has no value.
-/

namespace ArchLint.Yaml

/-- Which node has a name, and the values of those that are complete. -/
structure Anchors where
  next : Nat := 0
  names : List (List Char × Nat) := []
  values : List (Nat × Document) := []

namespace Anchors

/-- Gives a name to the next node. -/
def enter (a : Anchors) (p : Properties) : Anchors :=
  match p.anchor with
  | some name => { a with next := a.next + 1, names := (name, a.next) :: a.names }
  | none => { a with next := a.next + 1 }

/-- The value of a node that was entered as number `i`. -/
def leave (a : Anchors) (i : Nat) (p : Properties) (d : Document) : Anchors :=
  if p.anchor.isSome then { a with values := (i, d) :: a.values } else a

def value? (a : Anchors) (name : List Char) : Option Document :=
  (a.names.lookup name).map fun i => (a.values.lookup i).getD .foreign

end Anchors

/-- A value with the tag of its node. -/
def withTag (p : Properties) (d : Document) : Document :=
  match p.tag with
  | some tag => .tagged (String.ofList tag) d
  | none => d

mutual

def Node.resolve? (a : Anchors) : Node → Option (Document × Anchors)
  | .alias name => (a.value? name).map fun d => (d, a)
  | .scalar p isPlain text =>
    let s := String.ofList text
    let d := withTag p (if isPlain then .plain s else .text s)
    some (d, (a.enter p).leave a.next p d)
  | .list p items =>
    (resolveItems? (a.enter p) items).map fun (ds, b) =>
      let d := withTag p (.list ds)
      (d, b.leave a.next p d)
  | .table p entries =>
    (resolveEntries? (a.enter p) entries).map fun (es, b) =>
      let d := withTag p (.table es)
      (d, b.leave a.next p d)

def resolveItems? (a : Anchors) : List Node → Option (List Document × Anchors)
  | [] => some ([], a)
  | n :: ns =>
    match n.resolve? a with
    | some (d, a) => (resolveItems? a ns).map fun (ds, a) => (d :: ds, a)
    | none => none

def resolveEntries? (a : Anchors) :
    List (Node × Node) → Option (List (Option String × Document) × Anchors)
  | [] => some ([], a)
  | (k, v) :: es =>
    match k.resolve? a with
    | none => none
    | some (key, a) =>
      match v.resolve? a with
      | some (d, a) => (resolveEntries? a es).map fun (es, a) => ((key.asText?, d) :: es, a)
      | none => none

end

/-- A list never stands for a table. -/
def conventions : Document.Conventions :=
  { listForTable := false, surplus := false, emptyForNull := false }

/-- The one document that a text holds; without any it is an empty scalar. -/
def readDocument? (text : String) : Option Document :=
  match readNodes? text.toList with
  | some [] => some (.plain "")
  | some [n] => (n.resolve? {}).map Prod.fst
  | _ => none

end ArchLint.Yaml
