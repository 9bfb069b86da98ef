import ArchLint.Distinct

/-!
Patterns of paths. A path is matched as the bytes of its UTF-8 form, so a wildcard for one byte
takes one byte even of a longer character. Only the pieces that stand for folders, and sets, match a
slash.
-/

namespace ArchLint

/-- The byte between the names of a path. -/
def slash : UInt8 := 47

/-- A piece of a pattern. -/
inductive GlobPiece where
  | byte (b : UInt8)
  /-- Any byte but a slash. -/
  | anyByte
  /-- Any bytes without a slash. -/
  | anyName
  /-- A byte of the ranges, or of none of them. -/
  | byteSet (negated : Bool) (ranges : List (UInt8 × UInt8))
  /-- Nothing, or folders and the slash behind them. -/
  | leadingFolders
  /-- A slash, and perhaps folders between it and another slash. -/
  | innerFolders
  /-- A slash and whatever is behind it. -/
  | everythingBelow
  /-- One of several patterns; where there is none, nothing is asked for. -/
  | oneOf (alternatives : List (List GlobPiece))

abbrev Glob := List GlobPiece

namespace GlobPiece

/-- Is the byte in the set? -/
def inSet (negated : Bool) (ranges : List (UInt8 × UInt8)) (b : UInt8) : Bool :=
  (ranges.any fun r => r.1 ≤ b && b ≤ r.2) != negated

/-- The text and what is left of it after each of its bytes. -/
def tails : List UInt8 → List (List UInt8)
  | [] => [[]]
  | b :: bs => (b :: bs) :: tails bs

/-- What is left after each slash of the text. -/
def afterSlashes : List UInt8 → List (List UInt8)
  | [] => []
  | b :: bs => if b = slash then bs :: afterSlashes bs else afterSlashes bs

/-- What may be left of a text after no slash. -/
def withinName : List UInt8 → List (List UInt8)
  | [] => [[]]
  | b :: bs => if b = slash then [b :: bs] else (b :: bs) :: withinName bs

/-- What is left after the first byte if that is as asked. -/
def afterByte (asked : UInt8 → Bool) : List UInt8 → List (List UInt8)
  | [] => []
  | b :: bs => if asked b then [bs] else []

mutual

/-- What may be left of a text after a piece. -/
def rests : GlobPiece → List UInt8 → List (List UInt8)
  | byte b, t => afterByte (· = b) t
  | anyByte, t => afterByte (· ≠ slash) t
  | anyName, t => withinName t
  | byteSet negated ranges, t => afterByte (inSet negated ranges) t
  | leadingFolders, t => t :: afterSlashes t
  | innerFolders, t => (afterByte (· = slash) t).flatMap fun s => s :: afterSlashes s
  | everythingBelow, t => (afterByte (· = slash) t).flatMap tails
  | oneOf [], t => [t]
  | oneOf (a :: as), t => restsOfAny (a :: as) t

/-- What may be left of texts after all pieces of a pattern. A rest is known by its length. -/
def restsOfAll : List GlobPiece → List (List UInt8) → List (List UInt8)
  | [], ts => ts
  | p :: ps, ts => restsOfAll ps (distinctBy List.length (ts.flatMap (rests p)))

/-- What may be left of a text after one of several patterns. -/
def restsOfAny : List (List GlobPiece) → List UInt8 → List (List UInt8)
  | [], _ => []
  | a :: as, t => restsOfAll a [t] ++ restsOfAny as t

end

end GlobPiece

namespace Glob

/-- A pattern that asks for nothing but folders takes everything. -/
def isOpen : Glob → Bool
  | [.leadingFolders] => true
  | _ => false

/-- Does the pattern match the whole path? -/
def accepts (g : Glob) (path : String) : Bool :=
  isOpen g || (GlobPiece.restsOfAll g [path.toUTF8.data.toList]).any List.isEmpty

end Glob

end ArchLint
