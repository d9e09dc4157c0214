import SchemaTypes.Schema.Collection
import SchemaTypes.Toml.Decoder

/-!
Manifests: modules written as TOML documents.
-/

namespace SchemaTypes

/-- The names of the field kinds, in the order in which messages list them. -/
def FieldKind.names : List (String × FieldKind) :=
  [("string", .string), ("text", .text), ("json", .json), ("datetime", .datetime),
    ("timestamp", .timestamp), ("boolean", .boolean), ("int", .int), ("float", .float),
    ("binary", .binary), ("auto-pk", .autoPk)]

/-- The names of the kinds of relationships, in the order in which messages list them. -/
def RelationshipKind.names : List (String × RelationshipKind) :=
  [("child_of", .childOf), ("single_child_of", .singleChildOf)]

/-- A text that may be absent. -/
def optionalText (name : String) : Toml.Record (Option String) :=
  .optional name (fun v => some <$> Toml.Decoder.text v) none

/-- A list that is empty if it is absent. -/
def optionalList {α : Type} (name : String) (item : Toml.Decoder α) : Toml.Record (List α) :=
  .optional name (.list item) []

/-- A field as a record. -/
def Field.record : Toml.Record Field :=
  Field.mk <$> .required "name" .text <*> .required "type" (.choice FieldKind.names) <*>
    .optional "optional" .flag false <*> optionalText "description"

/-- Decode a field. -/
def Field.decoder : Toml.Decoder Field :=
  .record "FieldDefinition" Field.record

/-- A relationship as a record. -/
def Relationship.record : Toml.Record Relationship :=
  Relationship.mk <$> .required "type" (.choice RelationshipKind.names) <*>
    .required "collection" .text <*> optionalText "alias" <*> .optional "optional" .flag false

/-- Decode a relationship. -/
def Relationship.decoder : Toml.Decoder Relationship :=
  .record "Relationship" Relationship.record

/-- A collection as a record. -/
def Collection.record : Toml.Record Collection :=
  Collection.mk <$> .required "name" .text <*> optionalText "description" <*>
    optionalList "fields" Field.decoder <*> optionalList "relationships" Relationship.decoder <*>
    optionalList "indices" .text

/-- Decode a collection. -/
def Collection.decoder : Toml.Decoder Collection :=
  .record "CollectionDefinition" Collection.record

/-- A module as a record. -/
def Module.record : Toml.Record Module :=
  Module.mk <$> .required "name" .text <*> optionalList "collections" Collection.decoder

/-- Decode a module. -/
def Module.decoder : Toml.Decoder Module :=
  .record "SchemaModule" Module.record

/-- The module that a manifest declares. -/
def Module.ofManifest (source : String) : Except Toml.Failure Module :=
  Toml.decode Module.decoder source

end SchemaTypes
