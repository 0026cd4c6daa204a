import Checkpointing.Config.Snapshot
import Checkpointing.Job

/-! Jobs as JSON: the form in which they are submitted. A job's settings are checked again when
they are read. -/

namespace Checkpointing.Job
set_option autoImplicit false

def toJson (job : Job) : Json :=
  .object [("name", .string job.name), ("checkpoint_config", job.config.toJson)]

def text (job : Job) : String := job.toJson.indented

structure Draft where
  name : Option String
  config : Option Config

def Draft.finish (draft : Draft) : Except Json.Error Job := do
  let name ← Json.required "name" draft.name
  let config ← Json.required "checkpoint_config" draft.config
  return ⟨name, config⟩

def shape : Json.Shape Draft Job where
  wanted := "struct JobDefinition"
  fields :=
    [.plain "name" (·.name.isSome) (Json.readString "a string")
       fun draft s => { draft with name := some s },
     { name := "checkpoint_config"
       isIn := (·.config.isSome)
       read := fun draft cs => do
         let (c, rest) ← Config.readJson cs
         return ({ draft with config := some c }, rest) }]
  length := some "struct JobDefinition with 2 elements"
  closed := false
  start := ⟨none, none⟩
  finish := Draft.finish

def ofJson (text : String) : Traced Json.Error Job := Json.readDocument shape.read text

end Checkpointing.Job
