import ArchLint.CommandLine.Run

/-!
The program. It takes from the disk what a request can ask about, and leaves the rest to
`Surroundings.run`: the project with everything in it, the ignore lists of the folders above it,
and the files that are named.
-/

namespace ArchLint.Main

/-- The names that lead to a path from the topmost folder. -/
def trailOf (path : String) : List String := Path.ordinary path

/-- The true path of what is there, if anything is. -/
def truePath? (path : String) : IO (Option String) := do
  try return some (← IO.FS.realPath path).toString
  catch _ => return none

def isFolder (path : String) : IO Bool := do
  try (← IO.FS.realPath path).isDir
  catch _ => return false

/-- Where a path ends if links on the way are followed, but not one at its end. -/
def placeOf? (path : String) : IO (Option String) := do
  let segments := Path.segments path
  let name := Path.fileName path
  if name ∈ ["", ".", ".."] then truePath? path
  else
    let folder := if segments.length = 1 then "." else Path.ofSegments segments.dropLast ++ "/"
    return (← truePath? folder).map fun folder => folder ++ "/" ++ name

/-- Reading the disk, and noting the names that lead to links. -/
abbrev Gather := StateT (List (List String)) IO

/-- Everything in a folder, or a file. What a link leads to stands in its place, but for what is in a
folder: that may be a folder around the link. -/
partial def load (path : String) : Gather (Option Entry) := do
  try
    let place ← IO.FS.realPath path
    if ← place.isDir then
      let mut entries := []
      for e in ← place.readDir do
        let inner := place.toString ++ "/" ++ e.fileName
        let isLink := (← truePath? inner) ≠ some inner
        if isLink then modify (trailOf inner :: ·)
        let entry ← if isLink && (← isFolder inner) then pure (some .empty) else load inner
        if let some entry := entry then entries := (e.fileName, entry) :: entries
      return some (.folder entries)
    else return some (.file (.ofBytes (← IO.FS.readBinFile path).data.toList))
  catch _ => return none

/-- Puts into the tree what is at a path. -/
def graft (top : Entry) (path : String) : Gather Entry := do
  match ← placeOf? path with
  | none => return top
  | some place =>
    match ← load place with
    | some (.file content) => return top.putFile (trailOf place) content
    | some e => return Entry.alter (fun _ => e) (trailOf place) (some top)
    | none => return top

/-- Puts the lists of a folder into the tree. -/
def graftLists (top : Entry) (folder : String) : Gather Entry :=
  IgnoreKind.all.foldlM (fun top k => graft top (Path.ofSegments (folder :: k.trail))) top

/-- Puts every folder on a path into the tree, without what is in it. -/
def graftSteps (top : Entry) (path : String) : Gather Entry := do
  let segments := Path.segments path
  let mut top := top
  for n in List.range segments.length do
    let part := Path.ofSegments (segments.take (n + 1))
    if ← isFolder part then
      if let some place ← truePath? part then top := top.putFolder (trailOf place)
  return top

/-- The tree that a request can ask about. -/
def treeFor (r : Option Request) (here : String) : Gather Entry := do
  let top := Entry.empty.putFolder (trailOf here)
  match r with
  | some (.check r) =>
    let named := r.grammar.toList ++ r.config.toList
    let top ← (r.path :: named).foldlM graftSteps top
    let top ← named.foldlM graft top
    match ← truePath? r.path with
    | none => return top
    | some place =>
      let trail := trailOf place
      let above := (List.range trail.length).map fun n => "/" ++ Path.ofSegments (trail.take n)
      graft (← above.foldlM graftLists top) place
  | some (.init _) => (Starter.files.map Prod.fst).foldlM graft top
  | _ => return top

/-- The folder of the user's own configuration. -/
def personalFolder : IO (Option String) := do
  match ← IO.getEnv "ARCHGRAM_CONFIG_DIR" with
  | some folder => return some folder
  | none => return (← IO.getEnv "HOME").map (· ++ "/.archgram")

/-- Where the program runs, as far as a request can ask. -/
def surroundings (r : Option Request) : IO Surroundings := do
  let here := (← IO.currentDir).toString
  let (top, links) ← (treeFor r here).run []
  let personal ← match ← personalFolder with
    | none => pure none
    | some folder => match ← (load (folder ++ "/" ++ Surroundings.personalConfig)).run' [] with
      | some e => pure (some { top := .folder [(Surroundings.personalConfig, e)] })
      | none => pure none
  return {
    here := { top, links, folder := .ok (.inside (trailOf here)), origin := .inside [] }
    personal
    colored := ← (← IO.getStdout).isTty }

end ArchLint.Main

open ArchLint in
def main (arguments : List String) : IO UInt32 := do
  let request := Request.ofArguments? arguments
  let o := (← Main.surroundings request).run arguments
  for (path, text) in o.written do
    IO.FS.writeFile path text
  IO.print o.output
  if o.complaint ≠ "" then IO.eprintln o.complaint
  return UInt32.ofNat o.exit.number
