import SchemaTypes.Text.LetterCase
import SchemaTypes.Text.Cluster

/-!
The words of an identifier.

A name is read cluster by cluster. An underscore, a hyphen or a space ends a word and is dropped;
a change between lower case, upper case and digits ends a word and drops nothing; and of a run of
capitals before a small letter, the last one begins the next word (`XMLFile` is `XML`, `File`).
Words may be empty: `__` has three.
-/

namespace SchemaTypes.Identifier

open SchemaTypes.Text

/-- What a cluster contributes to word boundaries. -/
inductive Kind where
  | separator
  | digit
  | upper
  | lower
  | other
  deriving DecidableEq, Repr

/-- The clusters that separate words. -/
def separators : List (List Char) :=
  [['_'], ['-'], [' ']]

/-- The kind of a cluster. It has a case if its upper-case and lower-case forms differ and it is
one of them. -/
def kindOf (cluster : List Char) : Kind :=
  if separators.contains cluster then .separator
  else if cluster.all Char.isDigit then .digit
  else if Text.upper cluster = Text.lower cluster then .other
  else if cluster = Text.upper cluster then .upper
  else if cluster = Text.lower cluster then .lower
  else .other

/-- A word ends after a cluster of the first kind that is followed by clusters of the others. -/
def endsWord : Kind → List Kind → Bool
  | .lower, .upper :: _ | .lower, .digit :: _ | .upper, .digit :: _ => true
  | .digit, .lower :: _ | .digit, .upper :: _ => true
  | .upper, .upper :: .lower :: _ => true
  | _, _ => false

/-- The words of the remaining clusters, the first of which begins with `word`. -/
def wordsAfter (word : List Char) : List (List Char) → List (List Char)
  | [] => [word]
  | cluster :: rest =>
    if kindOf cluster = .separator then word :: wordsAfter [] rest
    else if endsWord (kindOf cluster) ((rest.take 2).map kindOf) then
      (word ++ cluster) :: wordsAfter [] rest
    else wordsAfter (word ++ cluster) rest

/-- The words of a name; the empty name has none. -/
def words (name : List Char) : List (List Char) :=
  match clusters name with
  | [] => []
  | cluster :: rest => wordsAfter [] (cluster :: rest)

@[simp] theorem words_nil : words [] = [] := rfl

end SchemaTypes.Identifier
