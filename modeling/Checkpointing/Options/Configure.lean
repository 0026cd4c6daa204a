import Checkpointing.Options.Basic
import Checkpointing.Options.Value

/-!
# Batches of options

`Config.configure` applies a batch of options to settings, all or none. `Config.toOptions` writes
settings as the batch that gives them back.
-/

namespace Checkpointing
set_option autoImplicit false

namespace Config

/-- Applies the option of one setting, if the batch has it. -/
def applyOption (options : Options) (c : Config) (s : Setting) :
    Traced (Failure Rejection) Config :=
  match options.lookup s with
  | none => pure c
  | some value => do
    let change ← .ofExcept (Change.read s (Text.trim value))
    let c ← (c.update change).mapError .refused
    .log [.optionApplied s.key value]
    pure c

/-- Switches unaligned checkpoints off ahead of all else if the batch does so, for then the same
batch may change the mode or turn on approximate local recovery. -/
def releaseUnaligned (options : Options) (c : Config) : Except Rejection Config :=
  match options.lookup .unaligned with
  | none => pure c
  | some value => do
    let on ← Options.readFlag .unaligned (Text.trim value)
    pure (if on then c else c.set (.unaligned false))

/-- Applies a batch of options in the order of the settings. Keys that are not known are reported and
passed over. -/
def configure (options : Options) (c : Config) : Traced (Failure Rejection) Config := do
  .log (options.unknownKeys.map .optionIgnored)
  let c ← .ofExcept (Options.refusing (releaseUnaligned options c))
  Setting.all.foldlM (applyOption options) c

/-- The default settings changed by a batch. -/
def ofOptions (options : Options) : Traced (Failure Rejection) Config := configure options default

/-- The settings that are written as options: all, but for the interval of disabled checkpoints. -/
def writtenSettings (c : Config) : List Setting :=
  Setting.all.filter fun s => s != .interval || c.isEnabled

def toOptions (c : Config) : Options :=
  .ofPairs (c.writtenSettings.map fun s => (s.key, (c.get s).text))

end Config
end Checkpointing
