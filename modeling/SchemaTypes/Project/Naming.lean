import SchemaTypes.Files.Path

/-!
The naming convention of manifests: a stem, a dot and a suffix.
-/

namespace SchemaTypes

/-- A text without another at its end, if it is there. -/
def dropEnd? (ending s : List Char) : Option (List Char) :=
  if ending.reverse.isPrefixOf s.reverse then some (s.take (s.length - ending.length)) else none

/-- What stands before a suffix and its dot. -/
def beforeSuffix? (name suffix : String) : Option (List Char) :=
  (dropEnd? suffix.toList name.toList).bind (dropEnd? ['.'])

/-- A name ends in a dot and the suffix. -/
def hasSuffix (name suffix : String) : Bool :=
  (beforeSuffix? name suffix).isSome

/-- The stem of a name; it may not be empty. -/
def stem? (name suffix : String) : Option String :=
  match beforeSuffix? name suffix with
  | none | some [] => none
  | some stem => some (String.ofList stem)

/-- A path has the name of a manifest. -/
def isManifest (p : Path) (suffix : String) : Bool :=
  p.fileName?.any (hasSuffix · suffix)

end SchemaTypes
