import ArchLint.Document

/-!
Grammar documents as they are written: every field a rule of some kind may have, none of them
checked yet. Fields that are no field of a grammar are passed over.
-/

namespace ArchLint.Draft

open Document

structure Role where
  name : String
  path : String
  deriving DecidableEq, Repr

/-- One role, or a list of roles. -/
inductive Selector where
  | one (role : String)
  | many (roles : List String)
  deriving DecidableEq, Repr

/-- What a rule is for: roles, or files whose path matches a pattern. -/
structure Scope where
  role : Option Selector := none
  filePattern : Option String := none
  deriving DecidableEq, Repr

/-- Where a dependency leads: to roles, or back to its start. -/
structure Target where
  role : Option Selector := none
  circular : Bool := false
  deriving DecidableEq, Repr

structure Options where
  threshold : Option Binary64 := none
  thesaurus : List (List String) := []
  ignored : List String := []
  deriving DecidableEq, Repr

structure Rule where
  name : String
  severity : String := "error"
  comment : Option String := none
  kind : String
  scope : Option Scope := none
  source : Option Selector := none
  target : Option Target := none
  pattern : Option String := none
  options : Option Options := none
  maxLines : Option Nat := none
  minLines : Option Nat := none
  demandsComment : Option Bool := none
  maxMethods : Option Nat := none
  maxProperties : Option Nat := none
  ratio : Option Binary64 := none
  targetLines : Option Binary64 := none
  tolerance : Option Binary64 := none
  forbiddenContent : Option (List String) := none
  directories : Option (List String) := none
  deriving DecidableEq, Repr

structure Grammar where
  version : String := "1.0"
  language : String := "typescript"
  roles : List Role := []
  rules : List Rule := []
  deriving DecidableEq, Repr

/-- A role in a selector is a text in the strict sense: no scalar that spells something else, and
nothing under a tag of the document's own. -/
def roleText? : Document → Option String
  | text s => some s
  | plain s => if isTextWord s then some s else none
  | tagged tag d =>
    if tag.startsWith "!" ∨ tag ∈ ["tag:yaml.org,2002:bool", "tag:yaml.org,2002:int",
      "tag:yaml.org,2002:float", nullTag] then none
    else d.asText?
  | _ => none

def Selector.read? : Document → Option Selector
  | list items => (items.mapM roleText?).map many
  | tagged tag (list items) =>
    if tag.startsWith "!" then none else (items.mapM roleText?).map many
  | d => (roleText? d).map one

def Role.read? (c : Conventions) (d : Document) : Option Role := do
  let fs ← d.asFields? c ["name", "path"]
  return { name := ← fs.required? "name" asText?, path := ← fs.required? "path" asText? }

def Scope.read? (c : Conventions) (d : Document) : Option Scope := do
  let fs ← d.asFields? c ["role", "file_pattern"]
  return {
    role := ← fs.optional? "role" Selector.read?
    filePattern := ← fs.optional? "file_pattern" asText? }

/-- The roles that a dependency starts from. -/
def readSource? (c : Conventions) (d : Document) : Option Selector := do
  let fs ← d.asFields? c ["role"]
  fs.required? "role" Selector.read?

def Target.read? (c : Conventions) (d : Document) : Option Target := do
  let fs ← d.asFields? c ["role", "circular"]
  return {
    role := ← fs.optional? "role" Selector.read?
    circular := ← fs.withDefault? "circular" false asBool? }

def Options.read? (c : Conventions) (d : Document) : Option Options := do
  let fs ← d.asFields? c ["similarity_threshold", "thesaurus", "ignore_patterns"]
  return {
    threshold := ← fs.optional? "similarity_threshold" asBinary64?
    thesaurus := ← fs.withDefault? "thesaurus" [] (asListOf? (asListOf? asText?))
    ignored := ← fs.withDefault? "ignore_patterns" [] (asListOf? asText?) }

/-- The ratio that holds for the whole project. -/
def readRatio? (c : Conventions) (d : Document) : Option Binary64 := do
  let fs ← d.asFields? c ["test_ratio"]
  fs.required? "test_ratio" asBinary64?

/-- The fields of a rule, in the order in which a list gives them. -/
def ruleFields : List String :=
  ["name", "severity", "comment", "kind", "for", "from", "to", "pattern", "options", "max_lines",
    "min_lines", "requires_jsdoc", "max_public_methods", "max_properties", "global",
    "target_loc_per_file", "warning_threshold_multiplier", "contains_forbidden", "directories"]

def Rule.read? (c : Conventions) (d : Document) : Option Rule := do
  let fs ← d.asFields? c ruleFields
  return {
    name := ← fs.required? "name" asText?
    severity := ← fs.withDefault? "severity" "error" asText?
    comment := ← fs.optional? "comment" asText?
    kind := ← fs.required? "kind" asText?
    scope := ← fs.optional? "for" (Scope.read? c)
    source := ← fs.optional? "from" (readSource? c)
    target := ← fs.optional? "to" (Target.read? c)
    pattern := ← fs.optional? "pattern" asText?
    options := ← fs.optional? "options" (Options.read? c)
    maxLines := ← fs.optional? "max_lines" asNatural?
    minLines := ← fs.optional? "min_lines" asNatural?
    demandsComment := ← fs.optional? "requires_jsdoc" asBool?
    maxMethods := ← fs.optional? "max_public_methods" asNatural?
    maxProperties := ← fs.optional? "max_properties" asNatural?
    ratio := ← fs.optional? "global" (readRatio? c)
    targetLines := ← fs.optional? "target_loc_per_file" asBinary64?
    tolerance := ← fs.optional? "warning_threshold_multiplier" asBinary64?
    forbiddenContent := ← fs.optional? "contains_forbidden" (asListOf? asText?)
    directories := ← fs.optional? "directories" (asListOf? asText?) }

def Grammar.read? (c : Conventions) (d : Document) : Option Grammar := do
  let fs ← d.asFields? c ["version", "language", "roles", "rules"]
  return {
    version := ← fs.withDefault? "version" "1.0" asText?
    language := ← fs.withDefault? "language" "typescript" asText?
    roles := ← fs.withDefault? "roles" [] (asListOf? (Role.read? c))
    rules := ← fs.withDefault? "rules" [] (asListOf? (Rule.read? c)) }

end ArchLint.Draft
