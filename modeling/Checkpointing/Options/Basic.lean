import Checkpointing.Setting
import Std.Data.TreeMap

/-! Options are texts under keys, in the order of the keys. Those whose key starts with
`execution.checkpointing.` are checkpoint options; of these the keys of settings are known. -/

namespace Checkpointing
set_option autoImplicit false

abbrev Options := Std.TreeMap String String

namespace Options

def ofPairs (pairs : List (String × String)) : Options := Std.TreeMap.ofList pairs

/-- The text of the option of a setting. -/
def lookup (options : Options) (s : Setting) : Option String := options[s.key]?

/-- The keys that claim to be checkpoint options and are not known, in order. -/
def unknownKeys (options : Options) : List String :=
  options.keys.filter fun key => Setting.isCheckpointKey key && (Setting.ofKey? key).isNone

/-- Both batches together; the second wins where both have a key. -/
def merge (first second : Options) : Options :=
  second.foldl (fun options key value => options.insert key value) first

end Options
end Checkpointing
