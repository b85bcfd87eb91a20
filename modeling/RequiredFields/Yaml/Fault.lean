/-!
# Why a YAML text is refused

One cause for every rule that a text can break, of its characters, its layout, its structure, or
the shape that was wanted.
-/

namespace RequiredFields.Yaml

/-- Why a text is refused. -/
inductive Fault where
  /-- A character that no YAML text may have. -/
  | forbiddenCharacter
  /-- A character that starts no token. -/
  | strayCharacter
  /-- A quoted scalar without its closing quotation mark. -/
  | unclosedQuote
  /-- An escape that stands for no character. -/
  | badEscape
  /-- The header of a block scalar that says something else than how the block is read. -/
  | badBlockHeader
  /-- A tab where indentation is counted. -/
  | tabIndentation
  /-- Text left of where its collection starts. -/
  | badIndentation
  /-- A comment without a blank in front of it. -/
  | badComment
  /-- Text behind something that ends its line. -/
  | trailingText
  /-- A directive that is unknown, ill-formed or repeated. -/
  | badDirective
  /-- An anchor or alias without a name, or with a name that runs into something else. -/
  | badAnchor
  /-- A tag that is ill-formed or whose handle is not declared. -/
  | badTag
  /-- An entry, key or value where none may start. -/
  | misplacedIndicator
  /-- Text that has to be a key and is followed by no colon. -/
  | keyWithoutColon
  /-- Brackets nested too deep. -/
  | tooDeep
  /-- A token that cannot stand at its place. -/
  | unexpectedToken
  /-- An alias whose anchor did not occur before. -/
  | unknownAlias
  /-- More than one document. -/
  | severalDocuments
  /-- A document of another shape than the one wanted. -/
  | wrongShape
  deriving DecidableEq, Repr

end RequiredFields.Yaml
