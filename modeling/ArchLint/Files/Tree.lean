import ArchLint.Files.Content
import ArchLint.Text.Path

/-!
Files in folders. A path is followed step by step from a folder: every step but the last has to
find a folder, and what is above the topmost folder is unknown but for the fact that it is there.
-/

namespace ArchLint

/-- What stands in a folder under a name. -/
inductive Entry where
  | file (content : Content)
  | folder (entries : List (String × Entry))

namespace Entry

def empty : Entry := folder []

/-- What a folder holds; nothing if it is a file or missing. -/
def entries : Option Entry → List (String × Entry)
  | some (folder es) => es
  | _ => []

/-- The entry that names lead to. -/
def find? : (trail : List String) → Entry → Option Entry
  | [], e => some e
  | name :: trail, e => ((entries (some e)).lookup name).bind (find? trail)

/-- Changes the entry under a name, or adds one at the end. -/
def update (change : Option Entry → Entry) (name : String) :
    List (String × Entry) → List (String × Entry)
  | [] => [(name, change none)]
  | e :: es =>
    if e.1 = name then (name, change (some e.2)) :: es else e :: update change name es

/-- Changes the entry that names lead to. What is in the way becomes a folder. -/
def alter (change : Option Entry → Entry) : (trail : List String) → Option Entry → Entry
  | [], e => change e
  | name :: trail, e => folder (update (alter change trail) name (entries e))

/-- Puts a file where names lead to. -/
def putFile (top : Entry) (trail : List String) (content : Content) : Entry :=
  alter (fun _ => file content) trail (some top)

/-- Makes sure that names lead to a folder. -/
def putFolder (top : Entry) (trail : List String) : Entry :=
  alter (fun e => folder (entries e)) trail (some top)

mutual

/-- All files, with the names that lead to them from here. -/
def files : Entry → List (List String × Content)
  | file content => [([], content)]
  | folder es => filesOf es

/-- All files among some entries. -/
def filesOf : List (String × Entry) → List (List String × Content)
  | [] => []
  | (name, e) :: es => (files e).map (fun f => (name :: f.1, f.2)) ++ filesOf es

end

end Entry

/-- Where a path leads. -/
inductive Spot where
  /-- The names that lead there from the topmost folder. -/
  | inside (trail : List String)
  /-- A folder above the topmost one. -/
  | outside
  deriving DecidableEq, Repr

namespace Spot

/-- Up to the folder that holds this one. -/
def up : Spot → Spot
  | inside [] => outside
  | inside trail => inside trail.dropLast
  | outside => outside

/-- Down to a name. -/
def down (top : Entry) (name : String) : Spot → Except ReadError Spot
  | inside trail =>
    if (top.find? (trail ++ [name])).isSome then .ok (inside (trail ++ [name]))
    else .error .notFound
  | outside => .error .notFound

/-- Is the spot a file? -/
def isFile (top : Entry) : Spot → Bool
  | inside trail =>
    match top.find? trail with
    | some (.file _) => true
    | _ => false
  | outside => false

/-- One step of a path. Nothing can be reached from a file. -/
def step (top : Entry) (s : Spot) (segment : String) : Except ReadError Spot :=
  if s.isFile top then .error .notDirectory
  else if segment = "" ∨ segment = "." then .ok s
  else if segment = ".." then .ok s.up
  else s.down top segment

/-- Where a path leads from a folder. -/
def follow (top : Entry) (start : Spot) (path : String) : Except ReadError Spot :=
  (Path.segments path).foldlM (step top) start

/-- What a file at the spot holds. -/
def content (top : Entry) : Spot → Except ReadError Content
  | inside trail =>
    match top.find? trail with
    | some (.file content) => .ok content
    | some (.folder _) => .error .isDirectory
    | none => .error .notFound
  | outside => .error .isDirectory

end Spot

/-- A folder of a tree, and what its paths lead to; if the folder is missing, the reason is the one
for every path. What a link leads to stands in its place, and a link to a folder is an empty one. -/
structure Workplace where
  top : Entry
  /-- The names that lead from the topmost folder to the links. -/
  links : List (List String) := []
  folder : Except ReadError Spot := .ok (.inside [])
  /-- Where absolute paths start. -/
  origin : Spot := .outside

namespace Workplace

/-- Where a path leads. An absolute one leads there from everywhere. -/
def follow (w : Workplace) (path : String) : Except ReadError Spot :=
  if Path.isAbsolute path then w.origin.follow w.top path
  else w.folder.bind fun start => start.follow w.top path

/-- The folder at a path. -/
def within (w : Workplace) (path : String) : Workplace := { w with folder := w.follow path }

/-- The text at a path. -/
def read (w : Workplace) (path : String) : Except ReadError String := do
  (← (← w.follow path).content w.top).read

def isThere (w : Workplace) (path : String) : Bool := (w.follow path).isOk

def isFile (w : Workplace) (path : String) : Bool :=
  match w.follow path with
  | .ok spot => spot.isFile w.top
  | .error _ => false

/-- Writes a file, in the folders of its path. -/
def write (w : Workplace) (path : String) (content : Content) : Workplace :=
  match w.folder with
  | .ok (.inside trail) =>
    { w with top := w.top.putFile (trail ++ Path.ordinary path) content }
  | _ => w

/-- Adds an empty folder, unless there is one. -/
def makeFolder (w : Workplace) (path : String) : Workplace :=
  match w.folder with
  | .ok (.inside trail) => { w with top := w.top.putFolder (trail ++ Path.ordinary path) }
  | _ => w

def view (w : Workplace) : FileView := { read := w.read, isThere := w.isThere }

end Workplace

end ArchLint
