import ArchLint.Pattern
import ArchLint.Symbol

/-!
Roles of files. A role definition claims the paths its pattern matches, and the first definition
that claims a path gives the file its role. Rules choose files by role.
-/

namespace ArchLint

/-- Which roles a rule speaks of. -/
inductive RoleSelector where
  | all
  | one (role : String)
  | any (roles : List String)
  deriving DecidableEq, Repr

namespace RoleSelector

/-- The word that selects every role when it stands alone. -/
def allWord : String := "ALL"

def ofRole (role : String) : RoleSelector := if role = allWord then all else one role

/-- Is the role among those selected? -/
def selects : RoleSelector → String → Bool
  | all, _ => true
  | one expected, role => expected = role
  | any roles, role => roles.contains role

/-- The selection in words. -/
def describe : RoleSelector → String
  | all => allWord
  | one role => role
  | any roles => " or ".intercalate roles

end RoleSelector

/-- A named role and the paths it claims. -/
structure RoleDefinition where
  name : String
  pattern : Pattern

/-- Why a role definition is refused. -/
inductive RoleError where
  | emptyName
  | invalidPattern (source : String)
  deriving DecidableEq, Repr

namespace RoleError

/-- The wording of the error. What is wrong with a text that is no pattern is for the library of
patterns to say: `reason` is its answer for each text, as far as there is one. -/
def message (e : RoleError) (reason : String → Option String := fun _ => none) : String :=
  match e with
  | emptyName => "role name must not be empty"
  | invalidPattern source =>
    let wrong := match reason source with
      | some text => ": " ++ text
      | none => ""
    "invalid pattern `" ++ source ++ "`" ++ wrong

end RoleError

namespace RoleDefinition

/-- A definition needs a name, then a valid pattern. -/
def define (name path : String) : Except RoleError RoleDefinition :=
  if name = "" then .error .emptyName
  else
    match Pattern.ofText? path with
    | some pattern => .ok { name, pattern }
    | none => .error (.invalidPattern path)

def claims (r : RoleDefinition) (path : String) : Bool := r.pattern.isMatch path

end RoleDefinition

/-- The role of a path: that of the first definition which claims it. -/
def roleOf (roles : List RoleDefinition) (path : String) : String :=
  match roles.find? fun r => r.claims path with
  | some r => r.name
  | none => unknownRole

/-- Gives every symbol the role of its path. -/
def assignRoles (roles : List RoleDefinition) (symbols : List Symbol) : List Symbol :=
  symbols.map fun s => { s with role := roleOf roles s.path }

end ArchLint
