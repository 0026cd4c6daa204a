/-! What can be wrong with a YAML text. -/

namespace Checkpointing.Yaml
set_option autoImplicit false

inductive Error where
  /-- a character that no text may hold -/
  | controlCharacter
  /-- a token that breaks its own rules -/
  | malformed (token : String)
  /-- a token where it may not stand -/
  | misplaced (token : String)
  | unsupportedVersion
  | repeatedDirective
  | undefinedHandle (handle : String)
  | unknownAlias (name : String)
  | severalDocuments
  /-- a scalar that its tag does not admit -/
  | illTagged (text : String)
  | integerTooLarge (text : String)
  | repeatedKey
  | tooDeep
  | tooManyAliases
deriving DecidableEq, Repr

/-- The texts stand for those of the YAML library in use, which words the same causes in its own way. -/
def Error.message : Error → String
  | .controlCharacter => "control characters are not allowed"
  | .malformed token => s!"malformed {token}"
  | .misplaced token => s!"{token} is not allowed here"
  | .unsupportedVersion => "unsupported YAML version"
  | .repeatedDirective => "directive is repeated"
  | .undefinedHandle handle => s!"undefined tag handle {handle}"
  | .unknownAlias name => s!"unknown anchor {name}"
  | .severalDocuments => "more than one document"
  | .illTagged text => s!"value {text} does not fit its tag"
  | .integerTooLarge text => s!"integer {text} is too large"
  | .repeatedKey => "duplicate key in mapping"
  | .tooDeep => "recursion limit exceeded"
  | .tooManyAliases => "repetition limit exceeded"

end Checkpointing.Yaml
