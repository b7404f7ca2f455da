import VoxelTemplate.Proofs.CommandLine.Parts
import VoxelTemplate.Proofs.CommandLine.Refusal

/-! Two ways to build one file: by its path, and by a name that a manifest has for it. -/
namespace VoxelTemplate.CommandLine

/-- Outcomes that print the same and succeed together. What they complain of is left open. -/
structure Outcome.Agree (a b : Outcome) : Prop where
  output_eq : a.output = b.output
  success_iff : a.code = 0 ↔ b.code = 0

theorem Outcome.Agree.refl (a : Outcome) : Agree a a := ⟨rfl, .rfl⟩

/-- Outcomes without success print nothing. -/
theorem Outcome.agree_of_failure (a b : Text) : Agree (.failure a) (.failure b) := ⟨rfl, .rfl⟩

/-- What is built depends on the settings of a request and on the text. -/
theorem buildSource_agree (request : Request) (direct named : Goal) {path name source : Text}
    {library : Library} (asked : named.name = some name)
    (known : library.sources.find? name = some source) :
    (buildSource (request.aim direct) path source).Agree
      (buildNamed (request.aim named) library) := by
  have found : library.find name = .ok (name, source) := by rw [Library.find, known]
  have name_eq : (request.aim named).name.getD library.fallback = name := by
    rw [Request.aim, asked, Option.getD_some]
  rw [buildNamed, name_eq]
  unfold Builder.build Builder.template
  cases parsed : Template.parse source with
  | ok template =>
    simp only [buildSource, found, parsed]
    exact .refl _
  | error faults =>
    simp only [found, parsed]
    rcases buildSource_of_faults (request.aim direct) path parsed with
      ⟨-, complaint, failed⟩ | ⟨-, failed⟩
    · rw [failed]
      exact Outcome.agree_of_failure ..
    · rw [failed]
      exact ⟨rfl, by simp [Outcome.undrawable, Outcome.failure]⟩

section Run

variable {m : Type → Type} [Monad m] [LawfulMonad m] {read : Text → m (Except ReadFailure Text)}
  {content : Except ReadFailure Text}

/-- A file that has no text ends the command. -/
theorem carryOut_file (request : Request) {path : Text} (template : read path = pure content) :
    carryOut read (request.aim { file := some path }) = pure (match content with
      | .ok source => buildSource (request.aim { file := some path }) path source
      | .error reason => .failure
          ("Error reading file '".toList ++ path ++ "': ".toList ++ reason.message ++ ['\n'])) := by
  cases content <;> simp [carryOut, Request.aim, template]

theorem carryOut_named (request : Request) {name path : Text}
    {loaded : Except Library.Error Library} (load : Library.load read path = pure loaded) :
    carryOut read (request.aim { name := some name, library := some path }) =
      pure (match loaded with
        | .ok library =>
          buildNamed (request.aim { name := some name, library := some path }) library
        | .error error => .failure (libraryComplaint path error)) := by
  cases loaded <;> simp [carryOut, Request.aim, load, Except.mapError]

/-- A manifest of one file adds the text of this file to the built-in library. -/
theorem load_single {path manifest name file : Text} {found : Manifest}
    (manifest_read : read path = pure (.ok manifest))
    (valid : Manifest.parse? manifest = some found) (only : found.files.entries = [(name, file)])
    (listed : read (Path.join (Path.parent path) file) = pure content) :
    Library.load read path = pure (match content with
      | .ok source => .ok
          ((Library.standard.setFallback (found.fallback.getD Library.standard.fallback)).insert
            name source)
      | .error reason => .error (.unreadable (Path.join (Path.parent path) file) reason)) := by
  cases content <;>
    simp [Library.load, Library.extend, Library.addFiles, Library.setFallback, manifest_read, valid,
      only, listed]

/-- A file prints the same and succeeds alike if it is built by its path and if it is built by its
name in a manifest, which may be the name of a built-in template. This holds whatever is in the
file, also if that is no text, and with all settings, wherever they stand. -/
theorem direct_agrees_named (read : Text → m (Except ReadFailure Text)) {direct named : List Part}
    {path manifestPath manifest name file : Text} {found : Manifest}
    (same : settings direct = settings named) (by_path : targets direct = [.file path])
    (by_name : targets named = [.library manifestPath, .name name] ∨
      targets named = [.name name, .library manifestPath])
    (path_ne : path ≠ []) (manifestPath_ne : manifestPath ≠ []) (plain : name.head? ≠ some '-')
    (manifest_read : read manifestPath = pure (.ok manifest))
    (valid : Manifest.parse? manifest = some found) (only : found.files.entries = [(name, file)])
    (template : read path = pure content)
    (listed : read (Path.join (Path.parent manifestPath) file) = pure content) :
    ∃ a b, run read (direct.flatMap Part.args) = pure a ∧
      run read (named.flatMap Part.args) = pure b ∧ a.Agree b := by
  have goal : (targets direct).foldlM Goal.add? {} = some { file := some path } := by
    simp [by_path, Goal.add?, path_ne]
  have goal' : (targets named).foldlM Goal.add? {} =
      some { name := some name, library := some manifestPath } := by
    rcases by_name with by_name | by_name <;> simp [by_name, Goal.add?, manifestPath_ne]
  have plain' : ∀ what ∈ targets named, what.Plain := by
    rcases by_name with by_name | by_name <;> simpa [by_name, Target.Plain] using plain
  have plain_path : ∀ what ∈ targets direct, what.Plain := by simp [by_path, Target.Plain]
  rw [run_parts read plain_path goal rfl, run_parts read plain' goal' rfl, same]
  cases (settings named).foldlM Setting.apply {} >>= Request.settle with
  | error stop => cases stop <;> exact ⟨_, _, rfl, rfl, .refl _⟩
  | ok request =>
    refine ⟨_, _, carryOut_file request template,
      carryOut_named request (load_single manifest_read valid only listed), ?_⟩
    cases content with
    | error reason => exact Outcome.agree_of_failure ..
    | ok source =>
      refine buildSource_agree request _ _ rfl ?_
      rw [Library.insert, Dict.find?_insert, if_pos rfl]

end Run

/-- A file under the name of a built-in template, with the same settings at other places. -/
theorem direct_agrees_named_house :
    let source := Text.ofLines ["s=stone", " s s"]
    let manifest := Text.ofLines ["[templates]", "house = \"../barn.tpl\""]
    let tree := FileTree.ofFiles
      [("barn.tpl".toList, some source), ("lib/pack.toml".toList, some manifest)]
    let found : Manifest := ⟨none, .ofList [("house".toList, "../barn.tpl".toList)]⟩
    let east : Part := .setting (.facing "east".toList)
    let bare : Part := .setting .noSlash
    let direct : List Part := [east, .target false (.file "barn.tpl".toList), bare]
    let named : List Part := [.target false (.name "house".toList), east, bare,
      .target true (.library "lib/pack.toml".toList)]
    let outcome : Outcome := run (m := Id) tree.read (direct.flatMap Part.args)
    let outcome' : Outcome := run (m := Id) tree.read (named.flatMap Part.args)
    settings direct = settings named ∧ Manifest.parse? manifest = some found ∧
      tree.read "lib/pack.toml".toList = .ok manifest ∧ tree.read "barn.tpl".toList = .ok source ∧
      tree.read "lib/../barn.tpl".toList = .ok source ∧ outcome.Agree outcome' ∧
      outcome.code = 0 := by
  intro source manifest tree found east bare direct named outcome outcome'
  have manifest_read : tree.read "lib/pack.toml".toList = .ok manifest := by decide +kernel
  have template : tree.read "barn.tpl".toList = .ok source := by decide +kernel
  have listed : tree.read "lib/../barn.tpl".toList = .ok source := by decide +kernel
  have valid : Manifest.parse? manifest = some found := by decide +kernel
  have parent : Path.join (Path.parent "lib/pack.toml".toList) "../barn.tpl".toList =
      "lib/../barn.tpl".toList := by decide +kernel
  have same : settings direct = settings named := rfl
  have by_path : targets direct = [.file "barn.tpl".toList] := rfl
  have by_name : targets named = [.name "house".toList, .library "lib/pack.toml".toList] := rfl
  have only : found.files.entries = [("house".toList, "../barn.tpl".toList)] := by decide +kernel
  obtain ⟨a, b, ran, ran', agree⟩ := direct_agrees_named (m := Id) tree.read same by_path
    (.inr by_name) (by decide) (by decide) (by decide) manifest_read valid only template
    (parent ▸ listed)
  have first : outcome = a := ran
  have second : outcome' = b := ran'
  exact ⟨same, valid, manifest_read, template, listed, by rw [first, second]; exact agree,
    by decide +kernel⟩

end VoxelTemplate.CommandLine
