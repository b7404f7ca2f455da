import VoxelTemplate.CommandLine
import VoxelTemplate.Proofs.Template.Lines

/-! Command lines by their parts: settings, which say how to build, and targets, which say what.
Settings are read one after the other and the same for all targets, wherever the targets stand
between them. -/
namespace VoxelTemplate.CommandLine

/-- How to build, in values that may be anything. -/
inductive Setting where
  | anchor (x y z : Text)
  | facing (value : Text)
  | signRotation (value : Text)
  | noSlash
  | verbose

/-- What to build. -/
inductive Target where
  | file (path : Text)
  | library (path : Text)
  | name (text : Text)

/-- A value may be `joined` to its option. It is so in any case if it looks like an option. -/
inductive Part where
  | setting (how : Setting)
  | target (joined : Bool) (what : Target)

namespace Setting

def option : Setting → Opt
  | anchor .. => .anchor
  | facing _ => .facing
  | signRotation _ => .signRotation
  | noSlash => .noSlash
  | verbose => .verbose

def values : Setting → List Text
  | anchor x y z => [x, y, z]
  | facing value | signRotation value => [value]
  | noSlash | verbose => []

/-- The request with the setting, if its values are any for it. -/
def apply (request : Request) (setting : Setting) : Except Stop Request :=
  (request.readWord setting.values setting.option.word).map Prod.fst

end Setting

namespace Part

/-- The arguments of an option with a value. -/
def valued (joined : Bool) (option : Opt) (value : Text) : List Text :=
  if joined || !Request.isPlain value then [UsageError.written option ++ '=' :: value]
  else [UsageError.written option, value]

def args : Part → List Text
  | setting how => UsageError.written how.option :: how.values
  | target joined (.file path) => valued joined .file path
  | target joined (.library path) => valued joined .library path
  | target _ (.name text) => [text]

def apply (request : Request) : Part → Except Stop Request
  | setting how => how.apply request
  | target _ (.file path) => request.setValue .file path
  | target _ (.library path) => request.setValue .library path
  | target _ (.name text) => request.setName text

theorem valued_length_pos (joined : Bool) (option : Opt) (value : Text) :
    0 < (valued joined option value).length := by
  unfold valued
  split <;> exact Nat.succ_pos _

theorem args_length_pos (part : Part) : 0 < part.args.length := by
  cases part with
  | setting how => exact Nat.succ_pos _
  | target joined what =>
    cases what with
    | file path => exact valued_length_pos joined .file path
    | library path => exact valued_length_pos joined .library path
    | name text => exact Nat.one_pos

theorem length_le (parts : List Part) : parts.length ≤ (parts.flatMap args).length := by
  induction parts with
  | nil => exact Nat.le_refl 0
  | cons part parts ih =>
    have := part.args_length_pos
    rw [List.flatMap_cons, List.length_append, List.length_cons]
    omega

def setting? : Part → Option Setting
  | setting how => some how
  | target .. => none

def target? : Part → Option Target
  | setting _ => none
  | target _ what => some what

end Part

/-- Names that cannot be taken for options. -/
def Target.Plain : Target → Prop
  | name text => text.head? ≠ some '-'
  | file _ | library _ => True

def settings (parts : List Part) : List Setting := parts.filterMap Part.setting?

def targets (parts : List Part) : List Target := parts.filterMap Part.target?

namespace Request

variable (request : Request)

theorem equals_not_mem_word (option : Opt) : '=' ∉ option.word := by
  cases option <;> decide

theorem readWord_word (args : List Text) (option : Opt) :
    request.readWord args option.word = if option.takesValue then request.takeValues option args
      else (request.setFlag option).map fun request => (request, args) := by
  unfold readWord
  simp only [Text.splitFirst?_eq_none_iff.2 (equals_not_mem_word option), Opt.ofWord?_word]

theorem readWord_joined (args : List Text) (option : Opt) (value : Text) :
    request.readWord args (option.word ++ '=' :: value) =
      (request.setValue option value).map fun request => (request, args) := by
  unfold readWord
  simp only [Text.splitFirst?_append (equals_not_mem_word option), Opt.ofWord?_word]

theorem readArgs_written (most : Nat) (option : Opt) (args : List Text) :
    request.readArgs (most + 1) (UsageError.written option :: args) =
      request.readWord args option.word >>= fun result => result.1.readArgs most result.2 := by
  cases option <;> rfl

/-- A setting takes its own values and leaves the arguments behind them. -/
theorem readWord_setting (setting : Setting) (rest : List Text) :
    request.readWord (setting.values ++ rest) setting.option.word =
      (setting.apply request).map fun request => (request, rest) := by
  rw [Setting.apply, readWord_word, readWord_word]
  cases setting with
  | anchor x y z =>
    simp only [Setting.option, Setting.values, Opt.takesValue, takeValues, List.cons_append,
      List.nil_append, ↓reduceIte]
    cases readCoord x <;> cases readCoord y <;> cases readCoord z <;> rfl
  | facing value | signRotation value =>
    simp only [Setting.option, Setting.values, Opt.takesValue, takeValues, List.cons_append,
      List.nil_append, ↓reduceIte]
    split
    · cases request.setValue _ value <;> rfl
    · rfl
  | noSlash | verbose =>
    simp only [Setting.option, Setting.values, Opt.takesValue]
    cases request.setFlag _ <;> rfl

theorem takeValues_cons {option : Opt} (one : option ≠ .anchor) (value : Text) (rest : List Text) :
    request.takeValues option (value :: rest) = if isPlain value
      then (request.setValue option value).map fun request => (request, rest)
      else fail (.missingValue option) := by
  cases option with
  | anchor => contradiction
  | file | facing | signRotation | library | list | noSlash | verbose | help => rfl

/-- Both ways to give an option its value set the option. -/
theorem readArgs_valued (joined : Bool) {option : Opt} (takes : option.takesValue = true)
    (one : option ≠ .anchor) (value : Text) (rest : List Text) (most : Nat) :
    request.readArgs (most + 1) (Part.valued joined option value ++ rest) =
      request.setValue option value >>= fun request => request.readArgs most rest := by
  unfold Part.valued
  split
  · have step : request.readArgs (most + 1)
        ([UsageError.written option ++ '=' :: value] ++ rest) =
          request.readWord rest (option.word ++ '=' :: value) >>= fun result =>
            result.1.readArgs most result.2 := by
      cases option <;> rfl
    rw [step, readWord_joined]
    cases request.setValue option value <;> rfl
  · next plain =>
    rw [Bool.or_eq_true, not_or] at plain
    have plain : isPlain value = true := by simpa using plain.2
    rw [List.cons_append, readArgs_written, readWord_word, if_pos takes, List.cons_append,
      List.nil_append, takeValues_cons request one, if_pos plain]
    cases request.setValue option value <;> rfl

theorem readArgs_name {text : Text} (plain : text.head? ≠ some '-') (rest : List Text)
    (most : Nat) : request.readArgs (most + 1) (text :: rest) =
      request.setName text >>= fun request => request.readArgs most rest := by
  -- the patterns before the last all begin with a dash
  rw [readArgs] <;> (intros; subst_vars; exact plain rfl)

theorem readArgs_part (part : Part) (plain : ∀ what, part.target? = some what → what.Plain)
    (rest : List Text) (most : Nat) : request.readArgs (most + 1) (part.args ++ rest) =
      part.apply request >>= fun request => request.readArgs most rest := by
  cases part with
  | setting how =>
    rw [Part.args, List.cons_append, readArgs_written, readWord_setting, Part.apply]
    cases how.apply request <;> rfl
  | target joined what =>
    cases what with
    | file path => exact request.readArgs_valued joined rfl (by decide) path rest most
    | library path => exact request.readArgs_valued joined rfl (by decide) path rest most
    | name text => exact request.readArgs_name (plain _ rfl) rest most

theorem readArgs_parts {parts : List Part} (plain : ∀ what ∈ targets parts, what.Plain) {most : Nat}
    (enough : parts.length ≤ most) :
    request.readArgs most (parts.flatMap Part.args) = parts.foldlM Part.apply request := by
  induction parts generalizing request most with
  | nil => cases most <;> rfl
  | cons part parts ih =>
    obtain ⟨most, rfl⟩ : ∃ fewer, most = fewer + 1 := ⟨most - 1, by simp at enough; omega⟩
    have here : ∀ what, part.target? = some what → what.Plain := fun what h =>
      plain what (List.mem_filterMap.2 ⟨part, List.mem_cons_self, h⟩)
    have others : ∀ what ∈ targets parts, what.Plain := fun what h => by
      obtain ⟨other, ho, hw⟩ := List.mem_filterMap.1 h
      exact plain what (List.mem_filterMap.2 ⟨other, List.mem_cons_of_mem _ ho, hw⟩)
    rw [List.flatMap_cons, readArgs_part request part here, List.foldlM_cons]
    cases part.apply request with
    | error stop => rfl
    | ok request => exact ih request others (Nat.le_of_succ_le_succ enough)

end Request

/-- Targets that are set, each once at the most. -/
structure Goal where
  name : Option Text := none
  file : Option Text := none
  library : Option Text := none

/-- The goal with one more target, where it has none of this kind. -/
def Goal.add? (goal : Goal) : Target → Option Goal
  | .file path =>
    if goal.file.isSome || path.isEmpty then none else some { goal with file := some path }
  | .library path =>
    if goal.library.isSome || path.isEmpty then none else some { goal with library := some path }
  | .name text => if goal.name.isSome then none else some { goal with name := some text }

namespace Request

/-- The request with these targets. -/
def aim (request : Request) (goal : Goal) : Request :=
  { request with name := goal.name, file := goal.file, library := goal.library, list := false }

variable (request : Request)

/-- The targets leave all the other values alone. -/
theorem setValue_aim {option : Opt} (how : option = .facing ∨ option = .signRotation)
    (goal : Goal) (value : Text) : (request.aim goal).setValue option value =
      (request.setValue option value).map fun request => request.aim goal := by
  rcases how with rfl | rfl
  · simp only [setValue, aim]
    cases once .facing request.facing (readFacing value) <;> rfl
  · simp only [setValue, aim]
    cases once .signRotation request.rotation (readRotation value) <;> rfl

theorem takeValues_aim {option : Opt} (how : option = .facing ∨ option = .signRotation)
    (goal : Goal) (value : Text) : ((request.aim goal).takeValues option [value]).map Prod.fst =
      ((request.takeValues option [value]).map Prod.fst).map fun request => request.aim goal := by
  have one : option ≠ .anchor := by rcases how with rfl | rfl <;> decide
  rw [takeValues_cons _ one, takeValues_cons _ one, setValue_aim request how]
  split
  · cases request.setValue option value <;> rfl
  · rfl

/-- Settings are taken whatever the targets are. -/
theorem apply_aim (goal : Goal) (how : Setting) :
    how.apply (request.aim goal) = (how.apply request).map fun request => request.aim goal := by
  rw [Setting.apply, Setting.apply, readWord_word, readWord_word]
  cases how with
  | anchor x y z =>
    simp only [Setting.option, Setting.values, Opt.takesValue, takeValues, ↓reduceIte]
    cases readCoord x <;> cases readCoord y <;> cases readCoord z <;> rfl
  | facing value => exact request.takeValues_aim (.inl rfl) goal value
  | signRotation value => exact request.takeValues_aim (.inr rfl) goal value
  | noSlash =>
    simp only [Setting.option, Opt.takesValue, setFlag, aim, Bool.false_eq_true, ↓reduceIte]
    cases raise .noSlash request.noSlash <;> rfl
  | verbose => rfl

theorem apply_target {goal next : Goal} {what : Target} (h : goal.add? what = some next)
    (joined : Bool) :
    (Part.target joined what).apply (request.aim goal) = .ok (request.aim next) := by
  obtain ⟨name, file, library⟩ := goal
  cases what with
  | file path | library path =>
    simp only [Goal.add?, Option.ite_none_left_eq_some, Bool.or_eq_true, not_or,
      Bool.not_eq_true, Option.isSome_eq_false_iff, Option.isNone_iff_eq_none] at h
    obtain ⟨⟨rfl, path⟩, h⟩ := h
    obtain rfl := Option.some.inj h
    simp only [Part.apply, setValue, aim, once, readPath, path, Bool.false_eq_true, ↓reduceIte]
    rfl
  | name text =>
    simp only [Goal.add?, Option.ite_none_left_eq_some, Bool.not_eq_true,
      Option.isSome_eq_false_iff, Option.isNone_iff_eq_none] at h
    obtain ⟨rfl, h⟩ := h
    obtain rfl := Option.some.inj h
    rfl

/-- Parts in any order come down to the settings among them and the targets among them. -/
theorem foldlM_parts {parts : List Part} {goal next : Goal}
    (h : (targets parts).foldlM Goal.add? goal = some next) :
    parts.foldlM Part.apply (request.aim goal) =
      ((settings parts).foldlM Setting.apply request).map fun request => request.aim next := by
  induction parts generalizing request goal with
  | nil =>
    obtain rfl := Option.some.inj h
    rfl
  | cons part parts ih =>
    cases part with
    | setting how =>
      have split : settings (.setting how :: parts) = how :: settings parts := rfl
      rw [split, List.foldlM_cons, List.foldlM_cons, Part.apply, apply_aim]
      cases how.apply request with
      | error stop => rfl
      | ok request => exact ih request h
    | target joined what =>
      have split : targets (.target joined what :: parts) = what :: targets parts := rfl
      rw [split, List.foldlM_cons] at h
      obtain ⟨middle, added, h⟩ := Option.bind_eq_some_iff.1 h
      rw [List.foldlM_cons, apply_target request added]
      exact ih request h

/-- The request, unless two of its settings exclude each other. -/
def settle (request : Request) : Except Stop Request :=
  if request.rotation.isSome && request.facing.isSome then
    fail (.conflict .signRotation .facing)
  else .ok request

theorem check_aim {goal : Goal} (one : (goal.file.isSome && goal.name.isSome) = false) :
    (request.aim goal).check = request.settle.map fun request => request.aim goal := by
  unfold settle
  have checked : (request.aim goal).check = if request.rotation.isSome && request.facing.isSome
      then fail (.conflict .signRotation .facing) else .ok (request.aim goal) :=
    if_neg (ne_true_of_eq_false one)
  rw [checked]
  split <;> rfl

end Request

/-- A command line is read as its settings are, with its targets set. -/
theorem read_parts {parts : List Part} (plain : ∀ what ∈ targets parts, what.Plain) {goal : Goal}
    (h : (targets parts).foldlM Goal.add? {} = some goal)
    (one : (goal.file.isSome && goal.name.isSome) = false) :
    Request.read (parts.flatMap Part.args) =
      ((settings parts).foldlM Setting.apply {} >>= Request.settle).map
        fun request => request.aim goal := by
  have start : parts.foldlM Part.apply {} = _ := Request.foldlM_parts {} h
  rw [Request.read, Request.readArgs_parts {} plain (Part.length_le parts), start]
  cases (settings parts).foldlM Setting.apply {} with
  | error stop => rfl
  | ok request => exact request.check_aim one

/-- Targets set, a command line gives the same outcome or the same error as its settings do. -/
theorem run_parts {m : Type → Type} [Monad m] (read : Text → m (Except ReadFailure Text))
    {parts : List Part} (plain : ∀ what ∈ targets parts, what.Plain) {goal : Goal}
    (h : (targets parts).foldlM Goal.add? {} = some goal)
    (one : (goal.file.isSome && goal.name.isSome) = false) :
    run read (parts.flatMap Part.args) =
      match (settings parts).foldlM Setting.apply {} >>= Request.settle with
      | .error .help => pure (.success help)
      | .error (.usage error) => pure (.usage error)
      | .ok request => carryOut read (request.aim goal) := by
  rw [run, read_parts plain h one]
  cases (settings parts).foldlM Setting.apply {} >>= Request.settle with
  | error stop => cases stop <;> rfl
  | ok request => rfl

end VoxelTemplate.CommandLine
