import ArchLint.Text.CharSet

/-!
The shape of a pattern once its notation is read. One character of the text is matched by a set,
letter case and shorthands being already resolved into the set; a position is tested by what stands
on either side of it; the rest is built from sequence, preference, repetition and groups.
-/

namespace ArchLint.Pattern

/-- A test of a position against the characters before and after it. -/
inductive Look where
  | textStart
  | textEnd
  /-- After a line feed; with `crlf` also after a carriage return that no line feed follows. -/
  | lineStart (crlf : Bool)
  | lineEnd (crlf : Bool)
  | boundary (word : CharSet)
  | noBoundary (word : CharSet)
  | wordStart (word : CharSet)
  | wordEnd (word : CharSet)
  | noWordBefore (word : CharSet)
  | noWordAfter (word : CharSet)

namespace Look

/-- Is there a word character? -/
def isWord (word : CharSet) (c : Option Char) : Bool := c.any word.contains

/-- Does the test hold between two characters? -/
def holds (before after : Option Char) : Look → Bool
  | textStart => before.isNone
  | textEnd => after.isNone
  | lineStart false => before.isNone || before = some '\n'
  | lineEnd false => after.isNone || after = some '\n'
  | lineStart true =>
    before.isNone || before = some '\n' || (before = some '\r' && after ≠ some '\n')
  | lineEnd true =>
    after.isNone || after = some '\r' || (after = some '\n' && before ≠ some '\r')
  | boundary w => isWord w before != isWord w after
  | noBoundary w => isWord w before == isWord w after
  | wordStart w => !isWord w before && isWord w after
  | wordEnd w => isWord w before && !isWord w after
  | noWordBefore w => !isWord w before
  | noWordAfter w => !isWord w after

end Look

/-- A pattern, with the preferred branch of each choice first. -/
inductive Node where
  | empty
  | char (set : CharSet)
  | look (test : Look)
  | seq (first second : Node)
  | choice (first second : Node)
  /-- At least `least` times, and at most `most` times if that is given. -/
  | repeated (least : Nat) (most : Option Nat) (greedy : Bool) (body : Node)
  | group (index : Nat) (body : Node)

namespace Node

/-- Nodes one after the other. -/
def sequence : List Node → Node
  | [] => empty
  | [n] => n
  | n :: ns => seq n (sequence ns)

/-- Nodes in order of preference. -/
def oneOf : List Node → Node
  | [] => empty
  | [n] => n
  | n :: ns => choice n (oneOf ns)

/-- May the node match without a character? -/
def canBeEmpty : Node → Bool
  | empty | look _ => true
  | char _ => false
  | seq a b => a.canBeEmpty && b.canBeEmpty
  | choice a b => a.canBeEmpty || b.canBeEmpty
  | repeated least _ _ body => least = 0 || body.canBeEmpty
  | group _ body => body.canBeEmpty

/-- Room that a set takes in a compiled pattern: plain for letters of one byte, more for others. -/
def setRoom (s : CharSet) : Nat :=
  if s.ranges.all fun r => decide (r.2 < 128) then 32 + 8 * (s.ranges.length - 1)
  else 60 * s.ranges.length

/-- Room that the compiled pattern takes, repetitions being written out. -/
def room : Node → Nat
  | empty | look _ => 32
  | char s => setRoom s
  | seq a b => a.room + b.room
  | choice a b => a.room + b.room + 64
  | repeated least most _ body =>
    match most with
    | none => (max least 1) * body.room + 64
    | some m => m * body.room + (m - least) * 64
  | group _ body => body.room + 64

end Node

end ArchLint.Pattern
