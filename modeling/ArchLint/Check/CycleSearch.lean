/-!
Finding cycles among the nodes in scope. A depth-first search follows every edge once, with a stack
of its own; an edge back to a node of the current path closes a cycle, which is noted and whose
nodes count as done from then on. No cycle is noted for an edge to a node that is done.
-/

namespace ArchLint.CycleSearch

inductive Color where
  | unvisited
  | onStack
  | done
  deriving DecidableEq, Repr

/-- A node and the edges of it that are still to be followed. -/
structure Frame where
  node : Nat
  pending : List Nat
  deriving DecidableEq, Repr

/-- The state of a search. Stack and path have their latest node first. -/
structure State where
  color : Array Color
  stack : List Frame := []
  path : List Nat := []
  cycles : List (List Nat) := []
  deriving DecidableEq, Repr

/-- Successors of the nodes, and which nodes are in scope. -/
structure Problem where
  successors : Array (List Nat)
  inScope : Nat → Bool

namespace Problem

def size (p : Problem) : Nat := p.successors.size

def edges (p : Problem) (i : Nat) : List Nat := p.successors.getD i []

/-- The number of all edges. -/
def edgeCount (p : Problem) : Nat := (p.successors.toList.map List.length).foldr (· + ·) 0

end Problem

def colorOf (s : State) (i : Nat) : Color := s.color.getD i .done

/-- Enters a node. -/
def enter (p : Problem) (s : State) (i : Nat) : State :=
  { s with
    color := s.color.setIfInBounds i .onStack
    stack := ⟨i, p.edges i⟩ :: s.stack
    path := i :: s.path }

/-- The part of the path from a node on, first node first. -/
def cycleFrom? (path : List Nat) (i : Nat) : Option (List Nat) :=
  if i ∈ path then some ((path.takeWhile (· ≠ i) ++ [i]).reverse) else none

/-- Marks nodes as done. -/
def finish (color : Array Color) (nodes : List Nat) : Array Color :=
  nodes.foldl (fun c i => c.setIfInBounds i .done) color

/-- Follows an edge that is already taken from its frame. -/
def follow (p : Problem) (s : State) (next : Nat) : State :=
  if !p.inScope next then s
  else
    match colorOf s next with
    | .unvisited => enter p s next
    | .onStack =>
      match cycleFrom? s.path next with
      | some cycle => { s with color := finish s.color cycle, cycles := s.cycles ++ [cycle] }
      | none => s
    | .done => s

/-- One step: the next edge of the latest node, or back from it when it has none left. -/
def step (p : Problem) (s : State) : State :=
  match s.stack with
  | [] => s
  | ⟨node, []⟩ :: rest =>
    { s with color := s.color.setIfInBounds node .done, stack := rest, path := s.path.tail }
  | ⟨node, next :: more⟩ :: rest => follow p { s with stack := ⟨node, more⟩ :: rest } next

/-- Steps until the stack is empty. -/
def run (p : Problem) : (fuel : Nat) → State → State
  | 0, s => s
  | fuel + 1, s => if s.stack.isEmpty then s else run p fuel (step p s)

/-- Every step follows an edge or leaves a node, and neither happens twice. -/
def enough (p : Problem) : Nat := p.edgeCount + p.size

/-- Searches from one node, unless it was reached before or is out of scope. -/
def visit (p : Problem) (s : State) (start : Nat) : State :=
  if colorOf s start = .unvisited ∧ p.inScope start then run p (enough p) (enter p s start) else s

/-- The state after searching from every node in order. -/
def search (p : Problem) : State :=
  (List.range p.size).foldl (visit p) { color := Array.replicate p.size .unvisited }

/-- The cycles found, each from its entry on. -/
def findCycles (p : Problem) : List (List Nat) := (search p).cycles

end ArchLint.CycleSearch
