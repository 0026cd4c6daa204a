import Checkpointing.Proofs.Session.Coherence

/-!
# Reachable settings

A client works with a session and with jobs: those that it built from its environment, and those that
it received as text. It may plan environments, and take over the settings of jobs. However it goes
about it, and whatever is refused on the way, it sees coherent settings only; and it can get to any
coherent settings.
-/

namespace Checkpointing
set_option autoImplicit false

structure Client where
  session : Session
  jobs : List Job

namespace Client

inductive Call where
  | step (step : Session.Step)
  /-- makes an environment of these calls and goes on in it -/
  | plan (name : String) (calls : List Plan.Call)
  /-- reads a job that was submitted -/
  | receive (text : String)
  /-- goes on with the settings of a job -/
  | adopt (index : Nat)

def start (name : String) : Client := ⟨.start name, []⟩

def built : Session.Answer → List Job
  | .job j => [j]
  | .done | .barrier _ | .options _ | .flag _ | .text _ | .index _ => []

/-- The client after a call, which is the same if the call was refused. -/
def next (client : Client) : Call → Client
  | .step step =>
    match (client.session.take step).outcome with
    | .ok (s, answer) => ⟨s, client.jobs ++ built answer⟩
    | .error _ => client
  | .plan name calls =>
    match (calls.foldl Plan.note (.start name)).build.outcome with
    | .ok e => { client with session := { client.session with environment := e } }
    | .error _ => client
  | .receive text =>
    match (Job.ofJson text).outcome with
    | .ok job => { client with jobs := client.jobs ++ [job] }
    | .error _ => client
  | .adopt index =>
    match client.jobs[index]? with
    | some job => { client with session := client.session.withConfig job.config }
    | none => client

def run (client : Client) (calls : List Call) : Client := calls.foldl next client

/-- All settings in sight: those held, those of the saved copies, and those of the jobs. -/
def configs (client : Client) : List Config :=
  client.session.config ::
    (client.session.saved.map (·.config) ++ client.jobs.map (·.config))

theorem session_next_step (client : Client) (step : Session.Step) :
    (client.next (.step step)).session = client.session.next step := by
  simp only [next, Session.next]
  split <;> simp only [*]

structure Coherent (client : Client) : Prop where
  session : client.session.Coherent
  jobs : ∀ job ∈ client.jobs, job.config.Coherent

theorem coherent_start (name : String) : (start name).Coherent where
  session := ⟨Config.coherent_default, fun _ he => absurd he List.not_mem_nil⟩
  jobs := fun _ hjob => absurd hjob List.not_mem_nil

theorem coherent_of_mem_built {answer : Session.Answer} (h : answer.Coherent) {job : Job}
    (hjob : job ∈ built answer) : job.config.Coherent := by
  cases answer <;> simp only [built, List.mem_singleton, List.not_mem_nil] at hjob
  exact hjob ▸ h

theorem Coherent.next {client : Client} (h : client.Coherent) (call : Call) :
    (client.next call).Coherent := by
  have happend : ∀ {jobs : List Job}, (∀ job ∈ jobs, job.config.Coherent) →
      ∀ job ∈ client.jobs ++ jobs, job.config.Coherent := by
    intro jobs hjobs job hjob
    rcases List.mem_append.mp hjob with hjob | hjob
    · exact h.jobs job hjob
    · exact hjobs job hjob
  cases call with
  | step step =>
    simp only [Client.next]
    split
    · rename_i s answer htake
      obtain ⟨hs, hanswer⟩ := h.session.take htake
      exact ⟨hs, happend fun job hjob => coherent_of_mem_built hanswer hjob⟩
    · exact h
  | plan name calls =>
    simp only [Client.next]
    split
    · rename_i e hbuild
      exact ⟨⟨Plan.coherent_of_build hbuild, h.session.saved⟩, h.jobs⟩
    · exact h
  | receive text =>
    simp only [Client.next]
    split
    · rename_i job hread
      refine ⟨h.session, happend fun j hj => ?_⟩
      exact List.mem_singleton.mp hj ▸ Job.coherent_of_ofJson hread
    · exact h
  | adopt index =>
    simp only [Client.next]
    split
    · rename_i job hjob
      exact ⟨⟨h.jobs job (List.mem_of_getElem? hjob), h.session.saved⟩, h.jobs⟩
    · exact h

theorem Coherent.run {client : Client} (h : client.Coherent) (calls : List Call) :
    (client.run calls).Coherent := by
  induction calls generalizing client with
  | nil => exact h
  | cons call calls ih => exact ih (h.next call)

theorem Coherent.of_mem_configs {client : Client} (h : client.Coherent) {c : Config}
    (hc : c ∈ client.configs) : c.Coherent := by
  unfold configs at hc
  rcases List.mem_cons.mp hc with rfl | hc
  · exact h.session.config
  · rcases List.mem_append.mp hc with hc | hc
    · obtain ⟨e, he, rfl⟩ := List.mem_map.mp hc
      exact h.session.saved e he
    · obtain ⟨job, hjob, rfl⟩ := List.mem_map.mp hc
      exact h.jobs job hjob

def changes (c : Config) (order : List Setting) : List Call :=
  order.map fun s => .step (.change (c.get s))

theorem config_next_change {client : Client} {change : Change}
    (h : client.session.config.refusal? change = none) :
    (client.next (.step (.change change))).session.config = client.session.config.set change := by
  have hchange := Config.outcome_update_of_refusal_eq_none h
  have htake : (client.session.take (.change change)).outcome =
      .ok (client.session.withConfig (client.session.config.set change), .done) := by
    exact (Traced.outcome_bind_of_ok (Traced.outcome_mapError_eq_ok_iff.mpr hchange) _).trans rfl
  rw [session_next_step, Session.next, htake]
  rfl

theorem config_run_changes {client : Client} {c : Config} {order : List Setting} (hc : c.Coherent)
    (h : Config.Approaches client.session.config c order) :
    (client.run (changes c order)).session.config = c := by
  induction order generalizing client with
  | nil => exact h.eq
  | cons s order ih =>
    apply ih
    rw [config_next_change (h.refusal?_eq_none hc)]
    exact h.set

end Client

def Config.Reachable (c : Config) : Prop :=
  ∃ name calls, c ∈ ((Client.start name).run calls).configs

theorem Config.Reachable.coherent {c : Config} (h : c.Reachable) : c.Coherent := by
  obtain ⟨name, calls, hc⟩ := h
  exact ((Client.coherent_start name).run calls).of_mem_configs hc

/-- A client sees coherent settings only, and can get to all of them. -/
theorem Client.reachable_iff_coherent :
    (∀ name calls, ∀ c ∈ ((start name).run calls).configs, c.Coherent) ∧
      ∀ name (c : Config), c.Coherent → ∃ calls, ((start name).run calls).session.config = c := by
  constructor
  · intro name calls c hc
    exact ((coherent_start name).run calls).of_mem_configs hc
  · intro name c hc
    exact ⟨changes c c.acceptanceOrder, config_run_changes hc hc.approaches⟩

theorem Client.reachable_iff_coherent_unaligned :
    ({ Config.default with interval := 1000, unaligned := true } : Config).Coherent ∧
      ∃ calls, ((start "job").run calls).session.config =
        { Config.default with interval := 1000, unaligned := true } :=
  ⟨by decide, reachable_iff_coherent.2 "job" _ (by decide)⟩

end Checkpointing
