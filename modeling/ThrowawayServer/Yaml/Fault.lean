/-!
# Faults in YAML texts

Why a text is not a YAML document, or not one of the expected shape.
-/

set_option autoImplicit false

namespace ThrowawayServer.Yaml

/-- Why a text cannot be read. -/
inductive Fault where
  | forbiddenCharacter
  | strayCharacter
  | tabIndentation
  | missingColon
  | misplacedEntry
  | misplacedKey
  | misplacedValue
  | strayColon
  | badDirective
  | badAnchor
  | badTag
  | badBlockHeader
  | badEscape
  | unclosedQuote
  | unexpectedToken
  | undefinedTagHandle
  | undefinedAlias
  | severalDocuments
  /-- The document is well formed, but a value in it is not what it should be. -/
  | unexpectedShape (expected : String)
  /-- The document is well formed, but a value in it is refused for a reason. -/
  | refused (reason : String)
  | duplicateField (name : String)
  | missingField (name : String)
  deriving DecidableEq, Repr

def Fault.message : Fault → String
  | .forbiddenCharacter => "control characters are not allowed"
  | .strayCharacter => "found character that cannot start any token"
  | .tabIndentation => "found a tab character where an indentation space is expected"
  | .missingColon => "could not find expected ':'"
  | .misplacedEntry => "block sequence entries are not allowed in this context"
  | .misplacedKey => "mapping keys are not allowed in this context"
  | .misplacedValue => "mapping values are not allowed in this context"
  | .strayColon => "found unexpected ':'"
  | .badDirective => "found a directive that is not understood"
  | .badAnchor => "did not find expected alphabetic or numeric character"
  | .badTag => "did not find expected tag URI"
  | .badBlockHeader => "did not find expected comment or line break"
  | .badEscape => "found unknown escape character"
  | .unclosedQuote => "found unexpected end of stream"
  | .unexpectedToken => "did not find expected node content"
  | .undefinedTagHandle => "found undefined tag handle"
  | .undefinedAlias => "unknown anchor"
  | .severalDocuments => "deserializing from YAML containing more than one document"
  | .unexpectedShape expected => s!"invalid type, expected {expected}"
  | .refused reason => reason
  | .duplicateField name => s!"duplicate field {name}"
  | .missingField name => s!"missing field {name}"

end ThrowawayServer.Yaml
