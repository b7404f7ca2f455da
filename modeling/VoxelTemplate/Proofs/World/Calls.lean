import VoxelTemplate.Command
import VoxelTemplate.Proofs.Plan.Passes

/-! The calls that a plan makes to a world, in their order. A run is the reports and after them the
commands of the plan, in every world; a script keeps them behind what it held before. -/
namespace VoxelTemplate

section Calls

variable {ω : Type} [World ω]

/-- The call that a command stands for. -/
def Command.perform : Command → ω → ω
  | setBlock block position => World.create block position
  | summon entity position => World.summon entity position
  | fill block low high => World.fill block low high

def Command.performAll (commands : List Command) (world : ω) : ω :=
  commands.foldl (fun world command => command.perform world) world

def World.logAll (messages : List Text) (world : ω) : ω :=
  messages.foldl (fun world message => World.log message world) world

theorem Command.performAll_append (commands more : List Command) (world : ω) :
    performAll (commands ++ more) world = performAll more (performAll commands world) :=
  List.foldl_append

end Calls

/-- One block is set, or one entity is summoned as often as its count says. -/
def Placement.commands (placement : Placement) : List Command :=
  match placement.action with
  | .create block => [.setBlock block placement.position]
  | .summon entity count => List.replicate count.toNat (.summon entity placement.position)

namespace Plan

def messages (plan : Plan) : List Text := plan.diagnostics.map Diagnostic.message

/-- The one command for the foundation, if there is a foundation. -/
def groundCommands (plan : Plan) : List Command :=
  plan.foundation.toList.map fun foundation =>
    .fill foundation.block foundation.low foundation.high

def commands (plan : Plan) : List Command :=
  plan.groundCommands ++ plan.placements.flatMap Placement.commands

end Plan

/-- A script with reports and commands behind its own. -/
def Script.extend (script : Script) (messages : List Text) (commands : List Command) : Script where
  slash := script.slash
  commands := script.commands ++ commands.toArray
  reports := script.reports ++ messages.toArray

section Anywhere

variable {ω : Type} [World ω]

theorem Command.performAll_replicate_summon (entity : Text) (position : Position) (count : Nat)
    (world : ω) : performAll (List.replicate count (summon entity position)) world =
      Nat.repeat (World.summon entity position) count world := by
  induction count with
  | zero => rfl
  | succ count ih =>
    rw [List.replicate_succ', performAll_append, ih]
    rfl

theorem Placement.perform_eq (placement : Placement) (world : ω) :
    placement.perform world = Command.performAll placement.commands world := by
  unfold perform commands
  cases placement.action with
  | create block => rfl
  | summon entity count => exact (Command.performAll_replicate_summon ..).symm

theorem Placement.foldl_perform (placements : List Placement) (world : ω) :
    placements.foldl (fun world placement => placement.perform world) world =
      Command.performAll (placements.flatMap commands) world := by
  induction placements generalizing world with
  | nil => rfl
  | cons placement rest ih =>
    rw [List.foldl_cons, ih, List.flatMap_cons, Command.performAll_append, perform_eq]

namespace Plan

/-- Reports come before all commands, in every world. -/
theorem run_eq_performAll (plan : Plan) (world : ω) :
    plan.run world = Command.performAll plan.commands (World.logAll plan.messages world) := by
  have told : World.logAll plan.messages world =
      plan.diagnostics.foldl (fun world d => World.log d.message world) world := List.foldl_map
  rw [commands, Command.performAll_append, ← Placement.foldl_perform, told, run, groundCommands]
  cases plan.foundation <;> rfl

end Plan

end Anywhere

namespace Script

theorem performAll_eq (commands : List Command) (script : Script) :
    Command.performAll commands script = script.extend [] commands := by
  induction commands generalizing script with
  | nil => simp [Command.performAll, extend]
  | cons command rest ih =>
    have first : command.perform script = script.record command := by cases command <;> rfl
    have next : Command.performAll (command :: rest) script =
        Command.performAll rest (command.perform script) := rfl
    rw [next, ih, first]
    simp [extend, record]

theorem logAll_eq (messages : List Text) (script : Script) :
    World.logAll messages script = script.extend messages [] := by
  induction messages generalizing script with
  | nil => simp [World.logAll, extend]
  | cons message rest ih =>
    have next : World.logAll (message :: rest) script =
        World.logAll rest { script with reports := script.reports.push message } := rfl
    rw [next, ih]
    simp [extend]

/-- A run keeps all that a script holds, and puts its reports and commands behind. -/
theorem run_eq_extend (plan : Plan) (script : Script) :
    plan.run script = script.extend plan.messages plan.commands := by
  rw [Plan.run_eq_performAll, logAll_eq, performAll_eq]
  simp [extend]

end Script

namespace Plan

theorem length_commands (plan : Plan) : plan.commands.length = plan.calls := by
  have one (placement : Placement) : placement.commands.length = placement.action.calls := by
    unfold Placement.commands
    cases placement.action with
    | create block => rfl
    | summon entity count => exact List.length_replicate
  have all (placements : List Placement) :
      (placements.flatMap Placement.commands).length =
        placements.foldr (fun placement calls => placement.action.calls + calls) 0 := by
    induction placements with
    | nil => rfl
    | cons placement rest ih =>
      rw [List.flatMap_cons, List.length_append, one, ih, List.foldr_cons]
  rw [commands, List.length_append, all, groundCommands, List.length_map, calls, Nat.add_comm]

theorem calls_le (plan : Plan) : plan.calls ≤ plan.placements.length * (2 ^ 32 - 1) + 1 := by
  have one (placement : Placement) : placement.action.calls ≤ 2 ^ 32 - 1 := by
    cases placement.action with
    | create block =>
      show 1 ≤ 2 ^ 32 - 1
      decide
    | summon entity count => exact Nat.le_pred_of_lt count.toNat_lt
  have all (placements : List Placement) :
      placements.foldr (fun placement calls => placement.action.calls + calls) 0 ≤
        placements.length * (2 ^ 32 - 1) := by
    induction placements with
    | nil => exact Nat.le_refl 0
    | cons placement rest ih =>
      have := one placement
      rw [List.foldr_cons, List.length_cons, Nat.succ_mul]
      omega
  have ground : plan.foundation.toList.length ≤ 1 := by cases plan.foundation <;> simp
  exact Nat.add_le_add (all plan.placements) ground

/-- The placements of a made plan stand in two passes, and so do its commands. -/
theorem commands_make (template : Template) (anchor : Position) (facing : Facing)
    (settings : Settings) :
    let plan := make template anchor facing settings
    plan.commands = plan.groundCommands ++
      ((plan.ofPass .solid).flatMap Placement.commands ++
        (plan.ofPass .attachment).flatMap Placement.commands) := by
  intro plan
  have passes : plan.placements = plan.ofPass .solid ++ plan.ofPass .attachment := by
    rw [ofPass_solid, ofPass_attachment, placements_eq_append]
  rw [commands, passes, List.flatMap_append]

end Plan

/-- A template to build, where, and how. -/
structure Job where
  template : Template
  anchor : Position
  facing : Facing
  settings : Settings

namespace Job

variable {ω : Type} [World ω]

def plan (job : Job) : Plan := .make job.template job.anchor job.facing job.settings

def build (job : Job) (world : ω) : ω :=
  (Plan.build job.template job.anchor job.facing job.settings world).2

/-- One after the other in one world. -/
def buildAll (jobs : List Job) (world : ω) : ω :=
  jobs.foldl (fun world job => job.build world) world

theorem build_eq_extend (job : Job) (script : Script) :
    job.build script = script.extend job.plan.messages job.plan.commands :=
  Script.run_eq_extend job.plan script

theorem buildAll_eq_extend (jobs : List Job) (script : Script) :
    buildAll jobs script = script.extend (jobs.flatMap fun job => job.plan.messages)
      (jobs.flatMap fun job => job.plan.commands) := by
  induction jobs generalizing script with
  | nil => simp [buildAll, Script.extend]
  | cons job rest ih =>
    have next : buildAll (job :: rest) script = buildAll rest (job.build script) := rfl
    rw [next, ih, build_eq_extend]
    simp [Script.extend]

end Job

namespace Plan

/-- The calls of a run, told by what they leave. -/
structure CallsInOrder (plan : Plan) : Prop where
  /-- Every world hears all reports before the first command. -/
  anywhere : ∀ (ω : Type) [World ω] (world : ω),
    plan.run world = Command.performAll plan.commands (World.logAll plan.messages world)
  /-- A script stays as it is, with the reports and the commands behind. -/
  recorded : ∀ script : Script, plan.run script = script.extend plan.messages plan.commands
  counted : plan.commands.length = plan.calls

/-- A run makes the calls of its plan: the reports, the foundation and then the placements, each as
often as it says, and their number fits into 64 bits if that of the placements fits into 32. In a
made plan no solid block comes after an attachment. What is built one after the other is recorded
one after the other. -/
theorem run_calls :
    (∀ plan : Plan, plan.CallsInOrder ∧
      (plan.placements.length < 2 ^ 32 → plan.calls < 2 ^ 64)) ∧
    (∀ job : Job, job.plan.commands = job.plan.groundCommands ++
      ((job.plan.ofPass .solid).flatMap Placement.commands ++
        (job.plan.ofPass .attachment).flatMap Placement.commands)) ∧
    ∀ (jobs : List Job) (script : Script), Job.buildAll jobs script =
      script.extend (jobs.flatMap fun job => (job.build ({} : Script)).reports.toList)
        (jobs.flatMap fun job => (job.build ({} : Script)).commands.toList) := by
  refine ⟨fun plan => ⟨?_, fun few => ?_⟩, fun job => commands_make .., fun jobs script => ?_⟩
  · exact ⟨fun ω _ => plan.run_eq_performAll, Script.run_eq_extend plan, plan.length_commands⟩
  · have := plan.calls_le
    omega
  · have alone (job : Job) : (job.build ({} : Script)).reports.toList = job.plan.messages ∧
        (job.build ({} : Script)).commands.toList = job.plan.commands := by
      rw [job.build_eq_extend]
      simp [Script.extend]
    simp only [alone, Job.buildAll_eq_extend]

/-- Cows, a bat that is called no times, a lantern before a stone, and an undefined key. -/
theorem run_calls_barn :
    let source := Text.ofLines
      ["c=$cow count:3", "b=$bat count:0", "l=lantern", "s=stone", "> base dirt", " l c s b x"]
    let template := Template.ofLines (Line.ofSource source)
    let plan := make template ⟨.zero, { val := 64 }, .zero⟩ .north .default
    Template.parse source = .ok template ∧ plan.placements.length < 2 ^ 32 ∧ plan.calls = 7 ∧
      plan.calls < 2 ^ 64 ∧ plan.CallsInOrder := by
  intro source template plan
  have parsed : Template.parse source = .ok template := by decide +kernel
  have few : plan.placements.length < 2 ^ 32 := by decide +kernel
  have calls : plan.calls = 7 := by decide +kernel
  obtain ⟨order, bounded⟩ := run_calls.1 plan
  exact ⟨parsed, few, calls, bounded few, order⟩

end Plan
end VoxelTemplate
