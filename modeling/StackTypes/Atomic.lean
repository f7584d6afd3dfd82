/-
The catalog of atomic types: each has a display name, a footprint, and unless it is a pseudo type a
descriptor character that stands for it in stored metadata. `catalog` fixes the order in which the
types are listed and searched.
-/
import StackTypes.Footprint
import StackTypes.Text.Windows1252

namespace StackTypes

/-- The atomic types. -/
inductive Atomic where
  | void
  | callback
  | boolean
  | int
  | fontMetrics
  | sprite
  | model
  | location
  | char
  | string
  | long
  | unknown
  | widget
  | itemId
  | item
  | namedItem
  | color
  | container
  | enum
  | struct
  | animation
  | map
  | graphic
  | skill
  | npcDef
  | texture
  | category
  | soundEffect
  | intArray
  | longArray
  | stringArray
  | dbRow
  | dbField
  | dbColumn
  | dbTable
  | object
  | mapElement
  | area
  | locShape
  | npcUid
  | overlayInterface
  | topLevelInterface
deriving DecidableEq, Repr

namespace Atomic

/-- All atomic types in display order. -/
def catalog : List Atomic :=
  [.void, .callback, .boolean, .int, .fontMetrics, .sprite, .model, .location, .char, .string,
    .long, .unknown, .widget, .itemId, .item, .namedItem, .color, .container, .enum, .struct,
    .animation, .map, .graphic, .skill, .npcDef, .texture, .category, .soundEffect, .intArray,
    .longArray, .stringArray, .dbRow, .dbField, .dbColumn, .dbTable, .object, .mapElement, .area,
    .locShape, .npcUid, .overlayInterface, .topLevelInterface]

/-- The display name. -/
def name : Atomic → Bytes
  | .void => utf8 "void"
  | .callback => utf8 "Callback"
  | .boolean => utf8 "boolean"
  | .int => utf8 "int"
  | .fontMetrics => utf8 "FontMetrics"
  | .sprite => utf8 "Sprite"
  | .model => utf8 "Model"
  | .location => utf8 "Location"
  | .char => utf8 "char"
  | .string => utf8 "string"
  | .long => utf8 "long"
  | .unknown => utf8 "??"
  | .widget => utf8 "Widget"
  | .itemId => utf8 "ItemId"
  | .item => utf8 "Item"
  | .namedItem => utf8 "NamedItem"
  | .color => utf8 "Color"
  | .container => utf8 "Container"
  | .enum => utf8 "Enum"
  | .struct => utf8 "Struct"
  | .animation => utf8 "Animation"
  | .map => utf8 "Map"
  | .graphic => utf8 "Graphic"
  | .skill => utf8 "Skill"
  | .npcDef => utf8 "NpcDef"
  | .texture => utf8 "Texture"
  | .category => utf8 "Category"
  | .soundEffect => utf8 "SoundEff"
  | .intArray => utf8 "int[]"
  | .longArray => utf8 "long[]"
  | .stringArray => utf8 "string[]"
  | .dbRow => utf8 "DbRow"
  | .dbField => utf8 "DbField"
  | .dbColumn => utf8 "DbColumn"
  | .dbTable => utf8 "DbTable"
  | .object => utf8 "Object"
  | .mapElement => utf8 "MapElement"
  | .area => utf8 "Area"
  | .locShape => utf8 "LocShape"
  | .npcUid => utf8 "NpcUid"
  | .overlayInterface => utf8 "OverlayInterface"
  | .topLevelInterface => utf8 "TopLevelInterface"

/-- The slots of a value: strings and longs have slots of their own kind, pseudo types have none. -/
def footprint : Atomic → Footprint
  | .void | .callback | .unknown => ⟨0, 0, 0⟩
  | .string => ⟨0, 1, 0⟩
  | .long => ⟨0, 0, 1⟩
  | _ => ⟨1, 0, 0⟩

/-- The descriptor character. Several types share that of `int`. -/
def descriptor? : Atomic → Option Char
  | .boolean => some '1'
  | .int => some 'i'
  | .fontMetrics => some 'f'
  | .sprite => some 'd'
  | .model => some 'm'
  | .location => some 'c'
  | .char => some 'z'
  | .string => some 's'
  | .long => some '§'
  | .widget => some 'I'
  | .itemId => some 'i'
  | .item => some 'o'
  | .namedItem => some 'O'
  | .color => some 'i'
  | .container => some 'v'
  | .enum => some 'g'
  | .struct => some 'J'
  | .animation => some 'A'
  | .map => some '\x60'
  | .graphic => some 't'
  | .skill => some 'S'
  | .npcDef => some 'n'
  | .texture => some 'x'
  | .category => some 'y'
  | .soundEffect => some 'P'
  | .dbRow => some 'Ð'
  | .dbField => some 'i'
  | .dbColumn => some 'i'
  | .dbTable => some 'i'
  | .object => some 'l'
  | .mapElement => some 'µ'
  | .area => some 'R'
  | .locShape => some 'H'
  | .npcUid => some 'u'
  | .overlayInterface => some 'L'
  | .topLevelInterface => some 'F'
  | .void | .callback | .unknown | .intArray | .longArray | .stringArray => none

/-- Can values of this type stand in stored metadata? -/
def isStored (a : Atomic) : Bool :=
  a.descriptor?.isSome

/-- The byte that stands for the type in stored metadata. -/
def wireByte? (a : Atomic) : Option UInt8 :=
  a.descriptor?.bind fun c => Windows1252.encode? c.toNat

/-- The type with the given display name. -/
def ofName? (name : Bytes) : Option Atomic :=
  catalog.find? fun a => a.name == name

/-- The first type of the catalog with the given descriptor; zero stands for an absent descriptor,
and a code that no type has for a plain `int`. -/
def ofDescriptor (code : Int32) : Atomic :=
  if code = 0 then .unknown
  else (catalog.find? fun a => a.descriptor?.any fun c => (c.toNat : Int) == code.toInt).getD .int

/-- The type that a byte of stored metadata stands for. -/
def ofWireByte (b : UInt8) : Atomic :=
  if b = 0 then .unknown else ofDescriptor (Int32.ofNat (Windows1252.decode b))

end Atomic

end StackTypes
