import ArchLint.Pattern
import ArchLint.Text.Affix

/-!
Words that mean the same. Of each group the first word stands for all; it takes the place of the
others wherever they stand as whole words, that is, between two places at which a word character
meets another character or the end of the text. A word for which no pattern is accepted, as it is too
long for one, is left where it stands.
-/

namespace ArchLint.Thesaurus

/-- Is there a word character? -/
def isWord (c : Option Char) : Bool := c.any Property.word.contains

/-- Does a word start or end between two characters? -/
def isEdge (before after : Option Char) : Bool := isWord before != isWord after

/-- The rest after `word`, if it stands here with an edge at both ends. -/
def wholeWord? (word : List Char) (before : Option Char) (cs : List Char) : Option (List Char) :=
  match Text.dropHead? word cs with
  | some rest =>
    let last := match word.getLast? with
      | some c => some c
      | none => before
    if isEdge before cs.head? && isEdge last rest.head? then some rest else none
  | none => none

/-- Replaces the whole words equal to `word` from left to right. -/
def replace (word image : List Char) : (fuel : Nat) → (before : Option Char) → List Char → List Char
  | 0, _, cs => cs
  | fuel + 1, before, cs =>
    match wholeWord? word before cs, word.getLast?, cs with
    | some rest, some c, _ => image ++ replace word image fuel (some c) rest
    | some _, none, [] => image
    | some _, none, c :: cs => image ++ c :: replace word image fuel (some c) cs
    | none, _, [] => []
    | none, _, c :: cs => c :: replace word image fuel (some c) cs

/-- Replaces the whole words equal to `word` in a text. -/
def replaceIn (text : List Char) (word image : List Char) : List Char :=
  replace word image (text.length + 1) none text

/-- The notation of the pattern for a whole word. -/
def wordPattern (word : List Char) : String :=
  String.ofList ('\\' :: 'b' :: (Pattern.escape word ++ ['\\', 'b']))

/-- Is the pattern for the word accepted? -/
def hasPattern (word : List Char) : Bool := Pattern.isValid (wordPattern word)

/-- The replacements of a group: every further word that has a pattern, with the first word as its
image. -/
def replacements : List String → List (List Char × List Char)
  | [] => []
  | first :: others =>
    (others.filter fun w => hasPattern (LetterCase.lower w.toList)).map fun w =>
      (LetterCase.lower w.toList, LetterCase.lower first.toList)

/-- Applies the replacements of all groups one after the other. -/
def apply (groups : List (List String)) (name : List Char) : List Char :=
  (groups.flatMap replacements).foldl (fun text r => replaceIn text r.1 r.2) name

end ArchLint.Thesaurus
