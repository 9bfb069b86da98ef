import ArchLint.Pattern

/-!
How many public methods and properties the classes of a file seem to have, told by the shape of its
lines.
-/

namespace ArchLint.Complexity

/-- A line that starts a public method with a body; its first group is the method's name. -/
def methodShape : Option Pattern := Pattern.ofText?
  ("(?m)^[ \\t]*(?:public[ \\t]+)?(?:static[ \\t]+)?(?:async[ \\t]+)?(?:get[ \\t]+|set[ \\t]+)?" ++
    "([A-Za-z_$][\\w$]*)[ \\t]*(?:<[^>]*>)?\\([^)]*\\)[^;\x7b]*\\\x7b")

/-- A line that declares a property. -/
def propertyShape : Option Pattern := Pattern.ofText?
  ("(?m)^[ \\t]*(?:(?:(?:public|private|protected|readonly|static|declare)[ \\t]+)+" ++
    "#?[A-Za-z_$][\\w$]*[?!]?[ \\t]*(?::[^;=()\x7b\x7d]+)?(?:=[^;]*)?" ++
    "|#?[A-Za-z_$][\\w$]*[?!]?[ \\t]*:[^;=()\x7b\x7d]+(?:=[^;]*)?);")

/-- Words that stand before parentheses and a brace without naming a method. -/
def controlWords : List String :=
  ["if", "for", "while", "switch", "catch", "function", "return", "constructor", "super", "else",
    "do", "try", "with"]

/-- The matches of a pattern, none if it is no pattern. -/
def matchesOf (shape : Option Pattern) (text : String) : List Pattern.Match :=
  match shape with
  | some p => p.findAll text
  | none => []

/-- The number of lines shaped like a public method. -/
def methods (text : String) : Nat :=
  ((matchesOf methodShape text).filter fun m =>
    m.first.any fun name => String.ofList name ∉ controlWords).length

/-- The number of declarations shaped like a property. -/
def properties (text : String) : Nat := (matchesOf propertyShape text).length

end ArchLint.Complexity
