import Checkpointing.Yaml.Tag

/-! The tokens of a YAML text: its marks, its names and its scalars. Blocks that are shown by
indentation alone have tokens for their starts and ends. -/

namespace Checkpointing.Yaml
set_option autoImplicit false

inductive Token where
  | version (major minor : Nat)
  | handle (handle : String) (start : Tag)
  | documentStart
  | documentEnd
  | blockSequenceStart
  | blockMappingStart
  | blockEnd
  | flowSequenceStart
  | flowSequenceEnd
  | flowMappingStart
  | flowMappingEnd
  | blockEntry
  | flowEntry
  | key
  | value
  | alias (name : String)
  | anchor (name : String)
  /-- a tag as written: the name before its last mark of exclamation, and the rest -/
  | tag (handle : String) (suffix : Tag)
  /-- `plain` scalars have neither quotes nor a block of their own -/
  | scalar (text : String) (plain : Bool)
deriving DecidableEq, Repr

end Checkpointing.Yaml
