import ArchLint.Pattern.Syntax

/-!
Patterns as programs. An instruction reads one character, tests the position, notes it, or says
where to go on; a fork prefers its first target. Running all threads of a program side by side over
a text finds the match that prefers earlier starts, then earlier branches.
-/

namespace ArchLint.Pattern

/-- Membership in a set, with the first 128 characters looked up. -/
structure Reader where
  near : Array Bool
  set : CharSet

namespace Reader

def of (s : CharSet) : Reader :=
  let low : CharSet := ⟨s.ranges.filter fun r => r.1 < 128⟩
  { near := ((List.range 128).map low.holds).toArray, set := s }

def accepts (r : Reader) (c : Char) : Bool :=
  if c.toNat < 128 then r.near.getD c.toNat false else r.set.contains c

end Reader

inductive Instr where
  | char (reader : Reader)
  | look (test : Look)
  | fork (first second : Nat)
  | jump (target : Nat)
  | note (slot : Nat)
  | accept

abbrev Program := Array Instr

namespace Program

/-- A fork whose preferred side is `body` when greedy. -/
def forkTo (greedy : Bool) (body exit : Nat) : Instr :=
  if greedy then .fork body exit else .fork exit body

/-- Appends `n` copies of what `emit` appends. -/
def copies (emit : Program → Program) : Nat → Program → Program
  | 0, p => p
  | n + 1, p => copies emit n (emit p)

/-- Appends a body that may be skipped. -/
def optional (emit : Program → Program) (greedy : Bool) (p : Program) : Program :=
  let start := p.size
  let q := emit (p.push .accept)
  q.setIfInBounds start (forkTo greedy (start + 1) q.size)

/-- Appends a body that runs once and then again as often as preferred. -/
def onceOrMore (emit : Program → Program) (greedy : Bool) (p : Program) : Program :=
  let start := p.size
  let q := emit p
  q.push (forkTo greedy start (q.size + 1))

/-- Appends a body that runs as often as preferred. -/
def anyTimes (emit : Program → Program) (greedy canBeEmpty : Bool) (p : Program) : Program :=
  if canBeEmpty then optional (onceOrMore emit greedy) greedy p
  else
    let start := p.size
    let q := (emit (p.push .accept)).push (.jump start)
    q.setIfInBounds start (forkTo greedy (start + 1) q.size)

/-- Appends up to `n` further bodies, each within the one before. -/
def upTo (emit : Program → Program) (greedy : Bool) : Nat → Program → Program
  | 0, p => p
  | n + 1, p => optional (fun p => upTo emit greedy n (emit p)) greedy p

/-- Appends the code of a node. -/
def emit : Node → Program → Program
  | .empty, p => p
  | .char s, p => p.push (.char (Reader.of s))
  | .look l, p => p.push (.look l)
  | .seq a b, p => emit b (emit a p)
  | .choice a b, p =>
    let start := p.size
    let q := emit a (p.push .accept)
    let mid := q.size
    let r := emit b (q.push .accept)
    (r.setIfInBounds start (.fork (start + 1) (mid + 1))).setIfInBounds mid (.jump r.size)
  | .repeated least most greedy body, p =>
    match most with
    | some m => upTo (emit body) greedy (m - least) (copies (emit body) least p)
    | none =>
      match least with
      | 0 => anyTimes (emit body) greedy body.canBeEmpty p
      | n + 1 => onceOrMore (emit body) greedy (copies (emit body) n p)
  | .group i body, p => (emit body (p.push (.note (2 * i)))).push (.note (2 * i + 1))

/-- The program of a pattern, which notes where its match starts and ends. -/
def ofNode (n : Node) : Program :=
  ((emit n #[.note 0]).push (.note 1)).push .accept

end Program

/-- A place in a program with the positions noted on the way, latest first. -/
structure Thread where
  place : Nat
  notes : List (Nat × Nat) := []

/-- The threads that wait for the next character, in order of preference. -/
structure Frontier where
  seen : Array Bool
  waiting : Array Thread := #[]

/-- Follows the threads on the stack until each reads a character, accepts, or dies. -/
def Frontier.follow (p : Program) (before after : Option Char) (pos : Nat) :
    (fuel : Nat) → List Thread → Frontier → Frontier
  | 0, _, f => f
  | _, [], f => f
  | fuel + 1, t :: ts, f =>
    if f.seen.getD t.place true then follow p before after pos fuel ts f
    else
      let f := { f with seen := f.seen.setIfInBounds t.place true }
      match p[t.place]? with
      | some (.jump target) => follow p before after pos fuel ({ t with place := target } :: ts) f
      | some (.fork a b) =>
        follow p before after pos fuel ({ t with place := a } :: { t with place := b } :: ts) f
      | some (.note slot) =>
        let t := { place := t.place + 1, notes := (slot, pos) :: t.notes }
        follow p before after pos fuel (t :: ts) f
      | some (.look l) =>
        let ts := if l.holds before after then { t with place := t.place + 1 } :: ts else ts
        follow p before after pos fuel ts f
      | _ => follow p before after pos fuel ts { f with waiting := f.waiting.push t }

/-- The threads reached from the seeds at one position. Each place is entered at most once and
leaves at most two threads, which bounds the steps. -/
def Frontier.ofSeeds (p : Program) (before after : Option Char) (pos : Nat) (seeds : List Thread) :
    Frontier :=
  follow p before after pos (2 * p.size + seeds.length + 1) seeds
    { seen := Array.replicate p.size false }

/-- Where a match was found. -/
abbrev Notes := List (Nat × Nat)

/-- The threads that go on after the character `c`, and the match of the most preferred thread that
accepts here; threads less preferred than that one are dropped. -/
def advance (p : Program) (c : Option Char) (best : Option Notes) :
    List Thread → List Thread × Option Notes
  | [] => ([], best)
  | t :: ts =>
    match p[t.place]? with
    | some .accept => ([], some t.notes)
    | some (.char r) =>
      let (next, best) := advance p c best ts
      if c.any r.accepts then ({ t with place := t.place + 1 } :: next, best) else (next, best)
    | _ => advance p c best ts

/-- The preferred match in a text that stands after `before`, at position `pos`. -/
def searchFrom (p : Program) (before : Option Char) (pos : Nat) (seeds : List Thread)
    (best : Option Notes) : List Char → Option Notes
  | [] =>
    let seeds := if best.isNone then seeds ++ [{ place := 0 }] else seeds
    (advance p none best (Frontier.ofSeeds p before none pos seeds).waiting.toList).2
  | c :: cs =>
    let seeds := if best.isNone then seeds ++ [{ place := 0 }] else seeds
    let (next, best) :=
      advance p (some c) best (Frontier.ofSeeds p before (some c) pos seeds).waiting.toList
    if next.isEmpty && best.isSome then best else searchFrom p (some c) (pos + 1) next best cs

/-- The latest position noted in a slot. -/
def noted (slot : Nat) (notes : Notes) : Option Nat := notes.lookup slot

end ArchLint.Pattern
