import VoxelTemplate.Builder
import VoxelTemplate.Proofs.World.Calls

/-! Building by name as it happens to a world, call by call. Whatever can go wrong goes wrong before
the first call, and a name that a library does not know builds what the fallback builds. -/
namespace VoxelTemplate

/-- The name that a name leads to in a library, and the text under it. -/
inductive Library.Leads (library : Library) (name : Text) : Text → Text → Prop where
  | known {source : Text} (h : library.sources.find? name = some source) :
    Leads library name name source
  | fallback {source : Text} (hn : library.sources.find? name = none)
    (h : library.sources.find? library.fallback = some source) :
    Leads library name library.fallback source

namespace Library

variable {library : Library} {name : Text}

/-- A name leads to a text, or there is none for it and none for the fallback. -/
theorem find_cases (library : Library) (name : Text) :
    (library.sources.find? name = none ∧ library.sources.find? library.fallback = none ∧
      library.find name = .error (.notFound name library.fallback)) ∨
    ∃ found source, Leads library name found source ∧ library.find name = .ok (found, source) := by
  unfold find
  cases hn : library.sources.find? name with
  | some source => exact .inr ⟨name, source, .known hn, rfl⟩
  | none =>
    cases hf : library.sources.find? library.fallback with
    | some source => exact .inr ⟨library.fallback, source, .fallback hn hf, rfl⟩
    | none => exact .inl ⟨rfl, rfl, rfl⟩

theorem find_fallback (hn : library.sources.find? name = none)
    (hf : library.sources.find? library.fallback ≠ none) :
    library.find name = library.find library.fallback := by
  obtain ⟨source, hs⟩ := Option.ne_none_iff_exists'.1 hf
  simp only [find, hn, hs]

end Library

section Steps

variable {ω : Type} [World ω]

/-- The calls of a plan, one after the other. -/
def Plan.perform {ε : Type} (plan : Plan) : ExceptT ε (StateM ω) Unit := do
  plan.diagnostics.forM fun d => modify (World.log d.message)
  plan.foundation.toList.forM fun foundation =>
    modify (World.fill foundation.block foundation.low foundation.high)
  plan.placements.forM fun placement => modify placement.perform

/-- Building by name in steps. An error ends the steps, and the world stays as they have left it. -/
def Builder.fill (builder : Builder) (name : Text) (anchor : Position) (facing : Facing) :
    ExceptT BuildError (StateM ω) Plan := do
  let (found, source) ← MonadExcept.ofExcept ((builder.library.find name).mapError .library)
  let template ← MonadExcept.ofExcept ((Template.parse source).mapError (.faulty found))
  let plan := Plan.make template anchor facing builder.settings
  plan.perform
  return plan

end Steps

section Run

variable {σ ε α β : Type} {step : ExceptT ε (StateM σ) α} {next : α → ExceptT ε (StateM σ) β}

theorem run_bind_ok {s t : σ} {a : α} (h : step.run s = (.ok a, t)) :
    (step >>= next).run s = (next a).run t := by
  have split : (step >>= next).run s = ExceptT.bindCont next (step.run s).1 (step.run s).2 := rfl
  rw [split, h]
  rfl

theorem run_bind_error {s t : σ} {e : ε} (h : step.run s = (.error e, t)) :
    (step >>= next).run s = (.error e, t) := by
  have split : (step >>= next).run s = ExceptT.bindCont next (step.run s).1 (step.run s).2 := rfl
  rw [split, h]
  rfl

theorem run_ofExcept (outcome : Except ε α) (s : σ) :
    (MonadExcept.ofExcept outcome : ExceptT ε (StateM σ) α).run s = (outcome, s) := by
  cases outcome <;> rfl

/-- Changes made one after the other are a fold over the state. -/
theorem run_forM_modify {ι : Type} (items : List ι) (change : ι → σ → σ) (s : σ) :
    (items.forM fun i => modify (change i) : ExceptT ε (StateM σ) Unit).run s =
      (.ok (), items.foldl (fun s i => change i s) s) := by
  induction items generalizing s with
  | nil => rfl
  | cons i items ih => exact ih (change i s)

end Run

section Outcome

variable {ω : Type} [World ω]

theorem Plan.run_perform {ε : Type} (plan : Plan) (world : ω) :
    (plan.perform : ExceptT ε (StateM ω) Unit).run world = (.ok (), plan.run world) := by
  rw [perform, run_bind_ok (run_forM_modify ..), run_bind_ok (run_forM_modify ..), run_forM_modify,
    Plan.run]
  cases plan.foundation <;> rfl

namespace Builder

variable {builder : Builder} {name found source : Text} (anchor : Position) (facing : Facing)
  (world : ω)

theorem fill_of_find_error {error : Library.Error} (h : builder.library.find name = .error error) :
    (builder.fill name anchor facing).run world = (.error (.library error), world) := by
  rw [fill, h, Except.mapError]
  exact run_bind_error (run_ofExcept _ world)

/-- With a text found, all turns on whether it parses. -/
theorem fill_of_find (h : builder.library.find name = .ok (found, source)) :
    (builder.fill name anchor facing).run world =
      match Template.parse source with
      | .error faults => (.error (.faulty found faults), world)
      | .ok template =>
        (.ok (Plan.make template anchor facing builder.settings),
          (Plan.make template anchor facing builder.settings).run world) := by
  rw [fill, h, Except.mapError, run_bind_ok (run_ofExcept _ world)]
  dsimp only
  cases Template.parse source with
  | error faults =>
    rw [Except.mapError]
    exact run_bind_error (run_ofExcept _ world)
  | ok template =>
    rw [Except.mapError, run_bind_ok (run_ofExcept _ world),
      run_bind_ok (Plan.run_perform _ world)]
    rfl

/-- Building at one stroke comes to the same as building in steps. -/
theorem build_eq_fill (name : Text) : builder.build name anchor facing world =
    match (builder.fill name anchor facing).run world with
    | (.ok plan, world) => .ok (plan, world)
    | (.error error, _) => .error error := by
  unfold build Builder.template
  rcases builder.library.find_cases name with ⟨-, -, h⟩ | ⟨found, source, -, h⟩
  · rw [fill_of_find_error anchor facing world h, h]
  · rw [fill_of_find anchor facing world h, h]
    dsimp only
    cases Template.parse source <;> rfl

/-- A name without a text of its own builds what the fallback builds, in every world. -/
theorem fill_fallback (hn : builder.library.sources.find? name = none)
    (hf : builder.library.sources.find? builder.library.fallback ≠ none) :
    (builder.fill name anchor facing).run world =
      (builder.fill builder.library.fallback anchor facing).run world := by
  rw [fill, fill, Library.find_fallback hn hf]

end Builder

end Outcome

/-- What building by name gives, and the world behind it. -/
inductive Builder.Fills {ω : Type} [World ω] (builder : Builder) (name : Text) (anchor : Position)
    (facing : Facing) (world : ω) : Except BuildError Plan × ω → Prop where
  /-- There is no text for the name, and none for the fallback. -/
  | missing (hn : builder.library.sources.find? name = none)
    (hf : builder.library.sources.find? builder.library.fallback = none) :
    Fills builder name anchor facing world
      (.error (.library (.notFound name builder.library.fallback)), world)
  /-- The text is no template: all its faults come out, and the name that it stands under. -/
  | faulty {found source : Text} {faults : List Fault} (h : builder.library.Leads name found source)
    (hp : Template.parse source = .error faults) :
    Fills builder name anchor facing world (.error (.faulty found faults), world)
  /-- The world gets all calls of the plan: its reports, and then its commands. -/
  | built {found source : Text} {template : Template} (h : builder.library.Leads name found source)
    (hp : Template.parse source = .ok template) :
    Fills builder name anchor facing world
      (.ok (Plan.make template anchor facing builder.settings),
        Command.performAll (Plan.make template anchor facing builder.settings).commands
          (World.logAll (Plan.make template anchor facing builder.settings).messages world))

theorem Builder.fills {ω : Type} [World ω] (builder : Builder) (name : Text) (anchor : Position)
    (facing : Facing) (world : ω) :
    Fills builder name anchor facing world ((builder.fill name anchor facing).run world) := by
  rcases builder.library.find_cases name with ⟨hn, hf, h⟩ | ⟨found, source, leads, h⟩
  · rw [fill_of_find_error anchor facing world h]
    exact .missing hn hf
  · rw [fill_of_find anchor facing world h]
    cases hp : Template.parse source with
    | error faults => exact .faulty leads hp
    | ok template =>
      dsimp only
      rw [Plan.run_eq_performAll]
      exact .built leads hp

/-- Building by name does all of a plan or nothing, in every world. A script keeps what it held and
has the calls of the plan behind. -/
theorem Builder.fill_all_or_nothing (builder : Builder) (name : Text) (anchor : Position)
    (facing : Facing) :
    (∀ (ω : Type) [World ω] (world : ω), Fills builder name anchor facing world
      ((builder.fill name anchor facing).run world)) ∧
    (∀ (script after : Script) (plan : Plan),
      (builder.fill name anchor facing).run script = (.ok plan, after) →
        after = script.extend plan.messages plan.commands) ∧
    (builder.library.sources.find? name = none →
      builder.library.sources.find? builder.library.fallback ≠ none →
      ∀ (ω : Type) [World ω] (world : ω), (builder.fill name anchor facing).run world =
        (builder.fill builder.library.fallback anchor facing).run world) ∧
    ∀ (ω : Type) [World ω] (world : ω), builder.build name anchor facing world =
      match (builder.fill name anchor facing).run world with
      | (.ok plan, world) => .ok (plan, world)
      | (.error error, _) => .error error := by
  refine ⟨fun _ _ world => builder.fills name anchor facing world, ?_,
    fun hn hf _ _ world => fill_fallback anchor facing world hn hf,
    fun _ _ world => build_eq_fill anchor facing world name⟩
  intro script after plan h
  have fills := builder.fills name anchor facing script
  rw [h] at fills
  cases fills with
  | built => rw [← Plan.run_eq_performAll, Script.run_eq_extend]

/-- A library that has a shed and no barn, with the shed as its fallback. -/
theorem Builder.fill_all_or_nothing_barn :
    let shed := Text.ofLines ["w=oak_planks", "c=$cow count:2", " w c w   w w w"]
    let library := (Library.empty.insert "shed".toList shed).setFallback "shed".toList
    let builder : Builder := { library }
    let anchor : Position := ⟨.zero, { val := 64 }, .zero⟩
    builder.library.sources.find? "barn".toList = none ∧
      builder.library.sources.find? builder.library.fallback ≠ none ∧
      (∀ (ω : Type) [World ω] (world : ω), Fills builder "barn".toList anchor .south world
        ((builder.fill "barn".toList anchor .south).run world)) ∧
      ∀ (ω : Type) [World ω] (world : ω), (builder.fill "barn".toList anchor .south).run world =
        (builder.fill builder.library.fallback anchor .south).run world := by
  intro shed library builder anchor
  have missing : builder.library.sources.find? "barn".toList = none := by decide +kernel
  have stands : builder.library.sources.find? builder.library.fallback ≠ none := by decide +kernel
  obtain ⟨fills, -, alike, -⟩ := builder.fill_all_or_nothing "barn".toList anchor .south
  exact ⟨missing, stands, fills, alike missing stands⟩

end VoxelTemplate
