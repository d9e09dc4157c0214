import SchemaTypes.Files.Tree

/-!
Which locations have to be known for a path to be followed.
-/

namespace SchemaTypes

/-- One name further, wherever that leads. -/
def Location.follow (here : Location) (name : String) : Location :=
  if Path.isIdle name then here
  else if name = ".." then here.dropLast
  else here ++ [name]

/-- The locations that a path passes through, the last one included. -/
def Path.passes (current : Location) (p : Path) : List Location :=
  let start := if p.isAbsolute then [] else current
  (List.range (p.segments.length + 1)).map fun n =>
    (p.segments.take n).foldl Location.follow start

/-- The path of a location from the root. -/
def Location.path (l : Location) : Path :=
  .ofParts true l

end SchemaTypes
