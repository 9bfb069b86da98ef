import ArchLint.Symbol

/-!
Which file depends on which. The nodes are the paths of symbols in the order of first sight, each
with the role of its first symbol; an edge leads to every node that some symbol of the file lists.
-/

namespace ArchLint

structure FileNode where
  path : String
  role : String
  /-- Places of the nodes the file depends on, in the order of first mention. -/
  edges : List Nat
  deriving DecidableEq, Repr

structure FileGraph where
  nodes : List FileNode
  deriving DecidableEq, Repr

namespace FileGraph

/-- What the symbols of one file depend on. -/
def mentions (symbols : List Symbol) (path : String) : List String :=
  (symbols.filter fun s => s.path = path).flatMap Symbol.dependencies

/-- The graph of the files that declare the symbols. -/
def ofSymbols (symbols : List Symbol) : FileGraph :=
  let firsts := firstPerFile symbols
  let paths := firsts.map Symbol.path
  ⟨firsts.map fun s =>
    { path := s.path, role := s.role,
      edges := distinct ((mentions symbols s.path).filterMap fun d => paths.idxOf? d) }⟩

def node? (g : FileGraph) (i : Nat) : Option FileNode := g.nodes[i]?

/-- The nodes that a node depends on. -/
def targets (g : FileGraph) (n : FileNode) : List FileNode := n.edges.filterMap g.node?

/-- Where the edges lead, node by node. -/
def successors (g : FileGraph) : Array (List Nat) := (g.nodes.map FileNode.edges).toArray

end FileGraph

end ArchLint
