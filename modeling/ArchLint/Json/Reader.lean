import ArchLint.Json.Token

/-!
From words to values: one value, and nothing after it.
-/

namespace ArchLint.Json

mutual

/-- The value at the head of the words. -/
def value? : (fuel : Nat) → List Token → Option (Json × List Token)
  | 0, _ => none
  | _ + 1, [] => none
  | fuel + 1, t :: ts =>
    match t with
    | .null => some (.null, ts)
    | .bool b => some (.bool b, ts)
    | .number n => some (.number n, ts)
    | .text s => some (.text (String.ofList s), ts)
    | .unpaired => some (.unpaired, ts)
    | .openList =>
      match ts with
      | .closeList :: ts => some (.list [], ts)
      | ts => (items? fuel ts).map fun (items, ts) => (.list items, ts)
    | .openTable =>
      match ts with
      | .closeTable :: ts => some (.table [], ts)
      | ts => (entries? fuel ts).map fun (entries, ts) => (.table entries, ts)
    | _ => none

/-- Items up to the end of their list; there is at least one. -/
def items? : (fuel : Nat) → List Token → Option (List Json × List Token)
  | 0, _ => none
  | fuel + 1, ts =>
    match value? fuel ts with
    | some (v, .comma :: ts) => (items? fuel ts).map fun (vs, ts) => (v :: vs, ts)
    | some (v, .closeList :: ts) => some ([v], ts)
    | _ => none

/-- Entries up to the end of their table; there is at least one. -/
def entries? : (fuel : Nat) → List Token → Option (List (String × Json) × List Token)
  | 0, _ => none
  | fuel + 1, ts =>
    match ts with
    | .text k :: .colon :: ts =>
      match value? fuel ts with
      | some (v, .comma :: ts) =>
        (entries? fuel ts).map fun (es, ts) => ((String.ofList k, v) :: es, ts)
      | some (v, .closeTable :: ts) => some ([(String.ofList k, v)], ts)
      | _ => none
    | _ => none

end

/-- The value of a document. -/
def ofText? (text : String) : Option Json :=
  match tokens? (text.length + 1) text.toList with
  | none => none
  | some ts =>
    match value? (2 * ts.length + 1) ts with
    | some (v, []) => some v
    | _ => none

end ArchLint.Json
