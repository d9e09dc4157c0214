import SchemaTypes.Declaration.Interface
import SchemaTypes.Declaration.Property
import SchemaTypes.Declaration.Comment

/-!
The text of declarations: first the imports, one a line, and an empty line if there are any; then
the interfaces, with an empty line between two of them.
-/

namespace SchemaTypes

/-- The indentation of a member. -/
def memberIndent : String := "    "

/-- The type parameters with which an interface is declared. -/
def KeyTyping.parameters : KeyTyping → String
  | .generic => "<Pk = number | string>"
  | .number | .string => ""

/-- The type arguments with which an interface is used. -/
def KeyTyping.arguments : KeyTyping → String
  | .generic => "<Pk>"
  | .number | .string => ""

/-- The text of the type of a member. -/
def MemberType.text (typing : KeyTyping) : MemberType → String
  | .named name => name
  | .memberOf typeName key => typeName ++ typing.arguments ++ "['" ++ key ++ "']"

/-- The comment on a member. -/
def Member.comment (m : Member) : String :=
  (m.docs.map (Comment.compact memberIndent)).getD ""

/-- The line of a member. -/
def Member.line (typing : KeyTyping) (m : Member) : String :=
  memberIndent ++ Property.key m.name ++ (if m.isOptional then "?" else "") ++ ": " ++
    m.type.text typing ++ ";\n"

/-- A member, with its comment. -/
def Member.text (typing : KeyTyping) (m : Member) : String :=
  m.comment ++ m.line typing

/-- The comment on an interface. -/
def Interface.comment (i : Interface) : String :=
  (i.docs.map (Comment.block "")).getD ""

/-- An interface, with its comment. -/
def Interface.text (typing : KeyTyping) (i : Interface) : String :=
  i.comment ++ "export interface " ++ i.typeName ++ typing.parameters ++ " \x7b\n" ++
    String.join (i.members.map (·.text typing)) ++ "\x7d\n"

/-- An import. -/
def Import.text (i : Import) : String :=
  "import type \x7b " ++ i.typeName ++ " \x7d from '" ++ i.path ++ "';\n"

/-- The imports, and an empty line after them. -/
def importsText (imports : List Import) : String :=
  String.join (imports.map (·.text)) ++ (if imports.isEmpty then "" else "\n")

namespace Declarations

/-- What follows the imports. -/
def body (d : Declarations) : String :=
  String.intercalate "\n" (d.interfaces.map (·.text d.typing))

/-- The text of declarations. -/
def text (d : Declarations) : String :=
  importsText d.imports ++ d.body

end Declarations

end SchemaTypes
