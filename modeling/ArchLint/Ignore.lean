import ArchLint.Files.Tree
import ArchLint.Glob.Notation
import ArchLint.Text.Property

/-!
Which files are no part of a project. A folder may hold lists of patterns for what is in it; the
last line of a list that matches a path decides about it, and the innermost folder whose list says
anything is heard.
-/

namespace ArchLint

/-- One line of a list. -/
structure IgnoreRule where
  glob : Glob
  /-- Is what matches kept and not left out? -/
  keeps : Bool := false
  foldersOnly : Bool := false

namespace IgnoreRule

/-- What a line says about a path, if anything: is it left out? -/
def verdict? (r : IgnoreRule) (path : String) (isFolder : Bool) : Option Bool :=
  if (!r.foldersOnly || isFolder) && r.glob.accepts path then some !r.keeps else none

/-- A line without the space at its end, unless the last space is escaped. -/
def trim (line : List Char) : List Char :=
  if (Text.dropTail? ['\\', ' '] line).isSome then line
  else (line.reverse.dropWhile Property.whiteSpace.contains).reverse

/-- A pattern without the slash at its end, and was there one? An escape before it goes too. -/
def withoutSlash (pattern : List Char) : List Char × Bool :=
  match pattern.reverse with
  | '/' :: '\\' :: cs => (cs.reverse, true)
  | '/' :: cs => (cs.reverse, true)
  | _ => (pattern, false)

/-- A pattern that is not tied to the folder of its list by a slash matches at any depth. -/
def anchored (isTied : Bool) (pattern : List Char) : List Char :=
  if isTied ∨ '/' ∈ pattern ∨ pattern = ['*', '*'] then pattern else "**/".toList ++ pattern

/-- What ends with two stars is meant for what is in a folder and not for the folder. -/
def below (pattern : List Char) : List Char :=
  if (Text.dropTail? "/**".toList pattern).isSome then pattern ++ "/*".toList else pattern

/-- The rule of a pattern. A slash at the start ties it to the folder of its list; one at the end
makes it match folders only. -/
def ofPattern? (mayStandOpen keeps : Bool) (pattern : List Char) : Option IgnoreRule :=
  let (isTied, pattern) := match pattern with
    | '/' :: cs => (true, cs)
    | cs => (false, cs)
  let (pattern, foldersOnly) := withoutSlash pattern
  (Glob.ofText? mayStandOpen (below (anchored isTied pattern))).map fun glob =>
    { glob, keeps, foldersOnly }

/-- What a line of a list comes to. -/
inductive Line where
  | nothing
  | rule (r : IgnoreRule)
  | malformed

/-- Reads a line. Nothing is said by an empty one or by one that starts as a remark. -/
def ofLine (line : List Char) : Line :=
  if line.head? = some '#' then .nothing
  else
    let rule? := match trim line with
      | [] => none
      | '\\' :: '#' :: cs => some (ofPattern? true false ('#' :: cs))
      | '\\' :: '!' :: cs => some (ofPattern? true false ('!' :: cs))
      | '!' :: cs => some (ofPattern? true true cs)
      | cs => some (ofPattern? true false cs)
    match rule? with
    | none => .nothing
    | some none => .malformed
    | some (some r) => .rule r

def Line.rule? : Line → Option IgnoreRule
  | rule r => some r
  | _ => none

def Line.isMalformed : Line → Bool
  | malformed => true
  | _ => false

end IgnoreRule

/-- The rules of one list, in the order of its lines. -/
abbrev IgnoreList := List IgnoreRule

namespace IgnoreList

/-- What the last line that says anything says about a path. -/
def verdict? (rules : IgnoreList) (path : String) (isFolder : Bool) : Option Bool :=
  rules.reverse.findSome? fun r => r.verdict? path isFolder

/-- A list of what is left out: every pattern counts, and one that cannot be read spoils the
list. -/
def ofExclusions? (patterns : List String) : Option IgnoreList :=
  patterns.mapM fun p => IgnoreRule.ofPattern? false false (IgnoreRule.trim p.toList)

/-- The lines of a file. A mark of the byte order may come first. -/
def linesOf (content : Content) : List IgnoreRule.Line :=
  match content.lines with
  | [] => []
  | l :: ls => (l.dropWhile (· = '\ufeff') :: ls).map IgnoreRule.ofLine

end IgnoreList

/-- The kinds of lists a folder may hold. A kind is heard only where those before it say nothing. -/
inductive IgnoreKind where
  | ignore
  | gitIgnore
  | gitExclude
  deriving DecidableEq, Repr

namespace IgnoreKind

def all : List IgnoreKind := [ignore, gitIgnore, gitExclude]

/-- The names that lead to the list from its folder. -/
def trail : IgnoreKind → List String
  | ignore => [".ignore"]
  | gitIgnore => [".gitignore"]
  | gitExclude => [".git", "info", "exclude"]

/-- The lines of the list in a folder. -/
def linesIn (k : IgnoreKind) (folder : Entry) : List IgnoreRule.Line :=
  match folder.find? k.trail with
  | some (.file content) => IgnoreList.linesOf content
  | _ => []

end IgnoreKind

/-- The lists of a folder that is so many folders below the topmost one. -/
structure IgnoreScope where
  depth : Nat
  lists : IgnoreKind → IgnoreList

namespace IgnoreScope

def ofFolder (depth : Nat) (folder : Entry) : IgnoreScope :=
  { depth, lists := fun k => (k.linesIn folder).filterMap IgnoreRule.Line.rule? }

/-- Is there a line in the lists of a folder that cannot be read? -/
def isMalformed (folder : Entry) : Bool :=
  IgnoreKind.all.any fun k => (k.linesIn folder).any IgnoreRule.Line.isMalformed

/-- What the lists of one kind say about names from the topmost folder, the innermost scope
first. -/
def verdictOf? (scopes : List IgnoreScope) (trail : List String) (isFolder : Bool)
    (k : IgnoreKind) : Option Bool :=
  scopes.findSome? fun s => (s.lists k).verdict? (Path.ofSegments (trail.drop s.depth)) isFolder

/-- Is something left out by the lists of some scopes? -/
def leavesOut (scopes : List IgnoreScope) (trail : List String) (isFolder : Bool) : Bool :=
  (IgnoreKind.all.findSome? (verdictOf? scopes trail isFolder)).getD false

end IgnoreScope

end ArchLint
