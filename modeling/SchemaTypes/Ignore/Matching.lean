import SchemaTypes.Ignore.Glob

/-!
Which paths a glob matches.

Matching goes through the pieces with the set of all that may remain of the path; a path matches if
nothing remains in the end. Paths are matched byte by byte.
-/

namespace SchemaTypes.Ignore

/-- The byte that separates the names of a path. -/
def slash : UInt8 := 0x2F

/-- The bytes of a character. -/
def bytesOf (c : Char) : List UInt8 :=
  (String.singleton c).toUTF8.toList

/-- The texts that remain after each slash. -/
def afterSlashes : List UInt8 → List (List UInt8)
  | [] => []
  | b :: rest => if b = slash then rest :: afterSlashes rest else afterSlashes rest

/-- The texts that remain after some bytes other than slashes, or none. -/
def afterName : List UInt8 → List (List UInt8)
  | [] => [[]]
  | b :: rest => (b :: rest) :: (if b = slash then [] else afterName rest)

/-- The texts that remain after any bytes, or none. -/
def afterAny : List UInt8 → List (List UInt8)
  | [] => [[]]
  | b :: rest => (b :: rest) :: afterAny rest

/-- The text after the first byte, if that passes a test. -/
def afterByte (test : UInt8 → Bool) : List UInt8 → List (List UInt8)
  | [] => []
  | b :: rest => if test b then [rest] else []

/-- The text after the given bytes, if it begins with them. -/
def afterBytes (front s : List UInt8) : List (List UInt8) :=
  if front.isPrefixOf s then [s.drop front.length] else []

/-- The ranges of bytes that a range of characters stands for. A character of several bytes
contributes each of them. -/
def byteRanges (low high : Char) : List (UInt8 × UInt8) :=
  if low = high then (bytesOf low).map fun b => (b, b)
  else
    let lows := bytesOf low
    let highs := bytesOf high
    (lows.dropLast.map fun b => (b, b)) ++
      [(lows.getLast?.getD 0, highs.head?.getD 0)] ++ highs.tail.map fun b => (b, b)

/-- A byte is in a class. -/
def inClass (ranges : List (Char × Char)) (b : UInt8) : Bool :=
  ranges.any fun (low, high) => (byteRanges low high).any fun (l, h) => l ≤ b && b ≤ h

mutual

/-- A piece without any text, such as an alternative without branches. -/
def Piece.isVoid : Piece → Bool
  | .choice branches => branchesVoid branches
  | _ => false

/-- A glob without any text. -/
def piecesVoid : List Piece → Bool
  | [] => true
  | p :: rest => p.isVoid && piecesVoid rest

/-- An alternative all of whose branches are without text. -/
def branchesVoid : List (List Piece) → Bool
  | [] => true
  | branch :: rest => piecesVoid branch && branchesVoid rest

end

mutual

/-- What may remain of the given texts after a piece. -/
def Piece.after (texts : List (List UInt8)) : Piece → List (List UInt8)
  | .literal c => texts.flatMap (afterBytes (bytesOf c))
  | .any => texts.flatMap (afterByte (· ≠ slash))
  | .star => (texts.flatMap afterName).eraseDups
  | .leading => (texts ++ texts.flatMap afterSlashes).eraseDups
  | .trailing => ((texts.flatMap (afterByte (· = slash))).flatMap afterAny).eraseDups
  | .between =>
    let inside := texts.flatMap (afterByte (· = slash))
    (inside ++ inside.flatMap afterSlashes).eraseDups
  | .oneOf negated ranges => texts.flatMap (afterByte fun b => inClass ranges b != negated)
  | .choice branches =>
    if branchesVoid branches then texts else (branchesAfter texts branches).eraseDups

/-- What may remain of the given texts after several pieces. -/
def piecesAfter (texts : List (List UInt8)) : List Piece → List (List UInt8)
  | [] => texts
  | p :: rest => piecesAfter (p.after texts) rest

/-- What may remain of the given texts after one of several globs. Those without text do not
count. -/
def branchesAfter (texts : List (List UInt8)) : List (List Piece) → List (List UInt8)
  | [] => []
  | branch :: rest =>
    (if piecesVoid branch then [] else piecesAfter texts branch) ++ branchesAfter texts rest

end

/-- A glob matches a path. Two stars alone match every path. -/
def Glob.matchesPath (glob : Glob) (path : List UInt8) : Bool :=
  match glob with
  | [.leading] => true
  | pieces => (piecesAfter [path] pieces).any (·.isEmpty)

end SchemaTypes.Ignore
