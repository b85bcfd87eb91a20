/-!
# Tokens

The parts of a YAML text in order, with the starts and ends of block collections that its
indentation shows.
-/

namespace RequiredFields.Yaml

/-- How a scalar is written. -/
inductive Style where
  /-- Without any quotation. -/
  | plain
  /-- Between single or double quotation marks. -/
  | quoted
  /-- As a block whose lines are kept. -/
  | literal
  /-- As a block whose lines are folded. -/
  | folded
  deriving DecidableEq, Repr

/-- A tag: the stem that its handle stands for, and what is written behind the handle. -/
structure Tag where
  /-- The stem. -/
  stem : String
  /-- What follows it. -/
  suffix : String
  deriving DecidableEq, Repr

/-- The stem of the tags that the format itself defines. -/
def standardStem : String := "tag:yaml.org,2002:"

/-- The whole tag. -/
def Tag.text (t : Tag) : String :=
  t.stem ++ t.suffix

/-- A part of a text. -/
inductive Token where
  /-- The directive that gives the version of the format. -/
  | version (major minor : Nat)
  /-- The directive that declares what a handle of tags stands for. -/
  | tagDirective (handle stem : String)
  /-- The mark in front of a document. -/
  | documentStart
  /-- The mark behind a document. -/
  | documentEnd
  /-- The first entry of a block sequence follows. -/
  | blockSequenceStart
  /-- The first key of a block mapping follows. -/
  | blockMappingStart
  /-- A block collection ends. -/
  | blockEnd
  /-- An opening square bracket. -/
  | flowSequenceStart
  /-- A closing square bracket. -/
  | flowSequenceEnd
  /-- An opening curly bracket. -/
  | flowMappingStart
  /-- A closing curly bracket. -/
  | flowMappingEnd
  /-- The hyphen in front of an entry. -/
  | blockEntry
  /-- The comma between entries. -/
  | flowEntry
  /-- A key follows. -/
  | key
  /-- The colon in front of a value. -/
  | value
  /-- A reference to an anchored node. -/
  | alias (name : String)
  /-- The name under which the next node can be referred to. -/
  | anchor (name : String)
  /-- The tag of the next node. -/
  | tag (handle suffix : String)
  /-- A scalar. -/
  | scalar (style : Style) (text : String)
  deriving DecidableEq, Repr

end RequiredFields.Yaml
