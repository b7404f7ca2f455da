import VoxelTemplate.CommandLine
import VoxelTemplate.Proofs.Template.Spans

/-! What the command makes of a file that is no template. It reports every fault and ends with code
1, unless an offset of the file trails off: that fault cannot be drawn, and the command breaks
off. -/
namespace VoxelTemplate

theorem mapM_isSome_iff {α β : Type} {f : α → Option β} {items : List α} :
    (∃ results, items.mapM f = some results) ↔ ∀ a ∈ items, ∃ b, f a = some b := by
  induction items with
  | nil => simp
  | cons a items ih =>
    rw [List.forall_mem_cons, ← ih, List.mapM_cons]
    cases ha : f a with
    | none => simp
    | some b => cases hr : items.mapM f <;> simp

namespace Report

/-- Exactly the spans that do not run backwards can be drawn. -/
theorem exists_draw?_iff {source filename : Text} {fault : Fault} :
    (∃ report, draw? source filename fault = some report) ↔ fault.span.start ≤ fault.span.stop := by
  unfold draw?
  split
  · next reversed => simp [reversed]
  · next ordered => simpa using Nat.not_lt.1 ordered

end Report

namespace CommandLine

variable {m : Type → Type} [Monad m] [LawfulMonad m]

/-- A request to build a file comes down to the text of the file, if its library can be loaded. -/
theorem run_of_file {read : Text → m (Except ReadFailure Text)} {args : List Text}
    {request : Request} {filename source : Text} (asked : Request.read args = .ok request)
    (build : request.list = false) (file : request.file = some filename)
    (found : read filename = pure (.ok source))
    (loads : ∀ path ∈ request.library, ∃ library, Library.load read path = pure (.ok library)) :
    run read args = pure (buildSource request filename source) := by
  have carried : run read args = carryOut read request := by rw [run, asked]
  rw [carried, carryOut]
  cases hl : request.library with
  | none => simp [build, file, found]
  | some path =>
    obtain ⟨library, load⟩ := loads path hl
    simp [build, file, found, load, Except.mapError]

/-- Either every fault has a report and the command fails with all of them, or one has none. -/
theorem buildSource_of_faults (request : Request) (filename : Text) {source : Text}
    {faults : List Fault} (refused : Template.parse source = .error faults) :
    ((∀ fault ∈ faults, ∃ report, Report.draw? source filename fault = some report) ∧
        ∃ complaint, buildSource request filename source = .failure complaint) ∨
      ((¬ ∀ fault ∈ faults, ∃ report, Report.draw? source filename fault = some report) ∧
        buildSource request filename source = .undrawable) := by
  simp only [buildSource, refused, ← mapM_isSome_iff]
  cases faults.mapM (Report.draw? source filename) with
  | none => exact .inr ⟨by simp, rfl⟩
  | some reports => exact .inl ⟨⟨_, rfl⟩, _, rfl⟩

/-- Faults lie in their text, and all of them are drawn and end the command with code 1, exactly if
no offset of the text trails off. -/
theorem refusal_reported_iff {source : Text} {faults : List Fault}
    (refused : Template.parse source = .error faults) :
    (∀ fault ∈ faults, fault.span.Within (Text.byteSize source)) ∧
      ((∀ fault ∈ faults, fault.span.start ≤ fault.span.stop) ↔ ¬ Template.TrailsOff source) ∧
      (∀ filename, (∀ fault ∈ faults, ∃ report,
        Report.draw? source filename fault = some report) ↔ ¬ Template.TrailsOff source) ∧
      ∀ (m : Type → Type) [Monad m] [LawfulMonad m] (read : Text → m (Except ReadFailure Text))
        (args : List Text) (request : Request) (filename : Text),
        Request.read args = .ok request → request.list = false → request.file = some filename →
        read filename = pure (.ok source) →
        (∀ path ∈ request.library, ∃ library, Library.load read path = pure (.ok library)) →
        ∃ outcome, run read args = pure outcome ∧ outcome.output = [] ∧
          (outcome.code = 1 ↔ ¬ Template.TrailsOff source) ∧
          (outcome.code = 101 ↔ Template.TrailsOff source) := by
  have whole := Template.eq_faults_of_parse refused
  have ordered := Template.ordered_iff source
  rw [← whole] at ordered
  have drawn (filename : Text) : (∀ fault ∈ faults, ∃ report,
      Report.draw? source filename fault = some report) ↔ ¬ Template.TrailsOff source := by
    simp only [Report.exists_draw?_iff, ordered]
  refine ⟨fun fault hf => Template.within_of_mem_faults (whole ▸ hf), ordered, drawn, ?_⟩
  intro m _ _ read args request filename asked build file found loads
  refine ⟨_, run_of_file asked build file found loads, ?_⟩
  rcases buildSource_of_faults request filename refused with
    ⟨all, complaint, failed⟩ | ⟨some, failed⟩
  · rw [drawn] at all
    rw [failed]
    exact ⟨rfl, iff_of_true rfl all, iff_of_false (by simp [Outcome.failure]) all⟩
  · rw [drawn, not_not] at some
    rw [failed]
    exact ⟨rfl, iff_of_false (by decide) (not_not.2 some), iff_of_true rfl some⟩

/-- Three directives and a layer that go wrong in one file are reported, and the command fails. -/
theorem refusal_reported_iff_barn :
    let source := Text.ofLines
      ["a=stone", "> offset 1 x 3", "> offset 1 2", "> base  ", " a a", " a"]
    let tree := FileTree.ofFiles [("barn.tpl".toList, some source)]
    let outcome : Outcome := run (m := Id) tree.read ["--file".toList, "barn.tpl".toList]
    let faults := Template.faults source
    Template.parse source = .error faults ∧ faults.length = 4 ∧
      (∀ fault ∈ faults, fault.span.Within (Text.byteSize source)) ∧
      (∀ fault ∈ faults, fault.span.start ≤ fault.span.stop) ∧ outcome.code = 1 := by
  intro source tree outcome faults
  have refused : Template.parse source = .error faults := by decide +kernel
  have four : faults.length = 4 := by decide +kernel
  have ordered : ∀ fault ∈ faults, fault.span.start ≤ fault.span.stop := by decide +kernel
  obtain ⟨within, sound, -, command⟩ := refusal_reported_iff refused
  have found : tree.read "barn.tpl".toList = .ok source := by decide +kernel
  obtain ⟨outcome', ran, -, code, -⟩ := command Id tree.read ["--file".toList, "barn.tpl".toList]
    { file := some "barn.tpl".toList } "barn.tpl".toList rfl rfl rfl found (by simp)
  have same : outcome = outcome' := ran
  exact ⟨refused, four, within, ordered, by rw [same]; exact code.2 (sound.1 ordered)⟩

/-- A space at the end of an unfinished offset: its fault cannot be drawn, and the command breaks
off. -/
theorem trailing_offset_undrawable :
    let source := Text.ofLines ["a=stone", " a", "> offset 1 2 "]
    let tree := FileTree.ofFiles [("a.tpl".toList, some source)]
    let outcome : Outcome := run (m := Id) tree.read ["--file".toList, "a.tpl".toList]
    let fault : Fault := ⟨⟨24, 23⟩, .unexpectedEnd⟩
    Template.parse source = .error [fault] ∧ fault.span.stop < fault.span.start ∧
      Report.draw? source "a.tpl".toList fault = none ∧ outcome.code = 101 := by
  decide +kernel

end CommandLine
end VoxelTemplate
