import ArchLint.Ignore
import ArchLint.TypeScript.Reader

/-!
The source files of a project: those with an extension of source files that neither the exclusions
of the run nor the lists in folders leave out. What is in a folder that is left out is left out too.
The lists in the folders above the project count as well. Links are passed over.
-/

namespace ArchLint

/-- What decides about the files of a project. -/
structure SourceFilter where
  /-- The names that lead to the project from the topmost folder. -/
  root : List String
  /-- Patterns of what is left out whatever other lists say. -/
  exclusions : IgnoreList
  /-- The names that lead from the topmost folder to the links. -/
  links : List (List String) := []

namespace SourceFilter

/-- Is something in the project left out? It is given by the names that lead there from the
project. -/
def leavesOut (f : SourceFilter) (scopes : List IgnoreScope) (trail : List String)
    (isFolder : Bool) : Bool :=
  f.links.contains (f.root ++ trail) ||
    (f.exclusions.verdict? (Path.ofSegments trail) isFolder).isSome ||
    IgnoreScope.leavesOut scopes (f.root ++ trail) isFolder

mutual

/-- The source files in an entry that names lead to from the project, as paths from the project.
The scopes are those of the folders around it. -/
def sourcesIn (f : SourceFilter) (scopes : List IgnoreScope) (trail : List String) :
    Entry → List String
  | .file _ =>
    let path := Path.ofSegments trail
    if TypeScript.handles path then [Path.normalize path] else []
  | .folder es =>
    f.sourcesAmong (.ofFolder (f.root ++ trail).length (.folder es) :: scopes) trail es

/-- The source files among what a folder holds. -/
def sourcesAmong (f : SourceFilter) (scopes : List IgnoreScope) (trail : List String) :
    List (String × Entry) → List String
  | [] => []
  | (name, .file content) :: es =>
    (if f.leavesOut scopes (trail ++ [name]) false then []
      else f.sourcesIn scopes (trail ++ [name]) (.file content)) ++ f.sourcesAmong scopes trail es
  | (name, .folder inner) :: es =>
    (if f.leavesOut scopes (trail ++ [name]) true then []
      else f.sourcesIn scopes (trail ++ [name]) (.folder inner)) ++ f.sourcesAmong scopes trail es

end

end SourceFilter

/-- The folders above the one that names lead to, the innermost first, with their depths. -/
def foldersAbove (top : Entry) (trail : List String) : List (Nat × Entry) :=
  (List.range trail.length).reverse.filterMap fun n =>
    (top.find? (trail.take n)).map fun e => (n, e)

/-- The source files of the project in a folder, unless it cannot be searched: because it is
missing, or because a pattern of the exclusions or of a list above it cannot be read. A file in the
place of the folder has none. -/
def sourcesAt? (top : Entry) (links : List (List String)) (spot : Spot) (exclusions : List String) :
    Option (List String) :=
  match spot with
  | .outside => none
  | .inside root => do
    let exclusions ← IgnoreList.ofExclusions? exclusions
    match ← top.find? root with
    | .file _ => return []
    | .folder es =>
      let above := foldersAbove top root
      if above.any fun a => IgnoreScope.isMalformed a.2 then none
      else
        let scopes := above.map fun a => IgnoreScope.ofFolder a.1 a.2
        return SourceFilter.sourcesIn { root, exclusions, links } scopes [] (.folder es)

end ArchLint
