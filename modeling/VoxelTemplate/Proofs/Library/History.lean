import Mathlib.Data.List.Forall2
import VoxelTemplate.Library.Basic
import VoxelTemplate.Proofs.Dict
import VoxelTemplate.Proofs.Text.Bytes

/-! What a library holds after any changes: under each name the text that was written last. A
manifest is taken over with all its files, or it changes nothing. -/
namespace VoxelTemplate

namespace Dict

variable {α : Type}

theorem mem_keys_iff {dict : Dict α} {key : Text} :
    key ∈ dict.keys ↔ ∃ value, dict.find? key = some value := by
  simp [keys, find?_eq_some_iff]

theorem lookup_eq_none_iff_not_mem {entries : List (Text × α)} {key : Text} :
    entries.lookup key = none ↔ key ∉ entries.map Prod.fst := by
  rw [List.lookup_eq_none_iff, List.mem_map]
  grind

theorem find?_ofList_eq_none_iff {entries : List (Text × α)} {key : Text} :
    (ofList entries).find? key = none ↔ key ∉ entries.map Prod.fst := by
  rw [ofList, find?_foldl_insert, find?_empty, Option.or_none, lookup_eq_none_iff_not_mem,
    List.map_reverse, List.mem_reverse]

theorem ofList_append (entries more : List (Text × α)) : ofList (entries ++ more) =
    more.foldl (fun dict entry => dict.insert entry.1 entry.2) (ofList entries) :=
  List.foldl_append

theorem ofList_entries (dict : Dict α) : ofList dict.entries = dict := ofList_of_perm (.refl _)

end Dict

namespace Library

/-- Texts written under their names, one after the other. -/
def insertAll (library : Library) (texts : List (Text × Text)) : Library :=
  texts.foldl (fun library entry => library.insert entry.1 entry.2) library

theorem insertAll_eq (library : Library) (texts : List (Text × Text)) :
    library.insertAll texts = { library with
      sources := texts.foldl (fun dict entry => dict.insert entry.1 entry.2) library.sources } := by
  induction texts generalizing library with
  | nil => rfl
  | cons entry texts ih => exact ih (library.insert entry.1 entry.2)

theorem find?_insertAll (library : Library) (texts : List (Text × Text)) (name : Text) :
    (library.insertAll texts).sources.find? name =
      (texts.reverse.lookup name).or (library.sources.find? name) := by
  rw [insertAll_eq, Dict.find?_foldl_insert]

section Files

variable (read : Text → Except ReadFailure Text)

/-- The texts of named files, each under its name, if all of them can be read. -/
def texts? (base : Text) (files : List (Text × Text)) : Option (List (Text × Text)) :=
  files.mapM fun file => (read (Path.join base file.2)).toOption.map fun text => (file.1, text)

/-- The text under a name is that of the file under the same name. -/
def Gives (base : Text) (file text : Text × Text) : Prop :=
  text.1 = file.1 ∧ read (Path.join base file.2) = .ok text.2

variable {read} in
theorem Gives.map_fst {base : Text} {files texts : List (Text × Text)}
    (pairs : List.Forall₂ (Gives read base) files texts) :
    texts.map Prod.fst = files.map Prod.fst := by
  induction pairs with
  | nil => rfl
  | cons head _ ih => rw [List.map_cons, List.map_cons, head.1, ih]

variable {read} in
theorem Gives.exists_mem {base : Text} {files texts : List (Text × Text)}
    (pairs : List.Forall₂ (Gives read base) files texts) {name file : Text}
    (h : (name, file) ∈ files) :
    ∃ text, read (Path.join base file) = .ok text ∧ (name, text) ∈ texts := by
  induction pairs with
  | nil => contradiction
  | @cons _ entry _ _ head _ ih =>
    rcases List.mem_cons.1 h with rfl | h
    · obtain ⟨rfl, given⟩ := head
      exact ⟨entry.2, given, List.mem_cons_self⟩
    · obtain ⟨text, given, hm⟩ := ih h
      exact ⟨text, given, List.mem_cons_of_mem _ hm⟩

theorem addFiles_cons (base name file : Text) (library : Library) (files : List (Text × Text)) :
    addFiles (m := Id) read base library ((name, file) :: files) =
      match read (Path.join base file) with
      | .ok text => addFiles (m := Id) read base (library.insert name text) files
      | .error reason => .error (.unreadable (Path.join base file) reason) := rfl

theorem texts?_cons (base name file : Text) (files : List (Text × Text)) :
    texts? read base ((name, file) :: files) =
      match read (Path.join base file) with
      | .ok text => (texts? read base files).map ((name, text) :: ·)
      | .error _ => none := by
  rw [texts?, List.mapM_cons]
  dsimp only
  cases read (Path.join base file) with
  | error reason => rfl
  | ok text => exact Option.map_eq_bind.symm

/-- Files are added with all their texts, or the first that cannot be read is the error. -/
theorem addFiles_cases (base : Text) (library : Library) (files : List (Text × Text)) :
    (∃ texts, texts? read base files = some texts ∧
      List.Forall₂ (Gives read base) files texts ∧
      addFiles (m := Id) read base library files = .ok (library.insertAll texts)) ∨
    ∃ before name file after reason, files = before ++ (name, file) :: after ∧
      texts? read base files = none ∧
      (∀ other ∈ before, ∃ text, read (Path.join base other.2) = .ok text) ∧
      read (Path.join base file) = .error reason ∧
      addFiles (m := Id) read base library files =
        .error (.unreadable (Path.join base file) reason) := by
  induction files generalizing library with
  | nil => exact .inl ⟨[], rfl, .nil, rfl⟩
  | cons head files ih =>
    obtain ⟨name, file⟩ := head
    cases hr : read (Path.join base file) with
    | error reason =>
      exact .inr ⟨[], name, file, files, reason, rfl, by rw [texts?_cons, hr], by simp, hr,
        by rw [addFiles_cons, hr]⟩
    | ok text =>
      rw [texts?_cons, addFiles_cons, hr]
      rcases ih (library.insert name text) with ⟨texts, all, pairs, added⟩ |
        ⟨before, other, path, after, reason, rfl, none, fine, fails, stopped⟩
      · exact .inl ⟨(name, text) :: texts, by rw [all]; rfl, .cons ⟨rfl, hr⟩ pairs, added⟩
      · exact .inr ⟨(name, file) :: before, other, path, after, reason, rfl, by rw [none]; rfl,
          List.forall_mem_cons.2 ⟨⟨text, hr⟩, fine⟩, fails, stopped⟩

/-- What comes of extending a library by a manifest. -/
inductive Extends (library : Library) (manifest base : Text) :
    Except Library.Error Library → Prop where
  | badManifest (none : Manifest.parse? manifest = none) :
    Extends library manifest base (.error .badManifest)
  /-- Of the files that cannot be read, the one of the least name is the error. -/
  | unreadable {found : Manifest} {name file : Text} {reason : ReadFailure}
    (valid : Manifest.parse? manifest = some found)
    (listed : found.files.find? name = some file)
    (fails : read (Path.join base file) = .error reason)
    (first : ∀ other path, found.files.find? other = some path →
      Text.bytes other < Text.bytes name → ∃ text, read (Path.join base path) = .ok text) :
    Extends library manifest base (.error (.unreadable (Path.join base file) reason))
  /-- The listed names have the texts of their files, and all else is as before. -/
  | extended {found : Manifest} {extended : Library}
    (valid : Manifest.parse? manifest = some found)
    (listed : ∀ name file, found.files.find? name = some file →
      ∃ text, read (Path.join base file) = .ok text ∧ extended.sources.find? name = some text)
    (kept : ∀ name, found.files.find? name = none →
      extended.sources.find? name = library.sources.find? name)
    (fallback : extended.fallback = found.fallback.getD library.fallback) :
    Extends library manifest base (.ok extended)

theorem extend_of_parse_none {manifest : Text} (none : Manifest.parse? manifest = none)
    (library : Library) (base : Text) :
    library.extend (m := Id) read manifest base = .error .badManifest := by
  rw [extend, none]
  rfl

theorem extend_of_parse {manifest : Text} {found : Manifest}
    (valid : Manifest.parse? manifest = some found) (library : Library) (base : Text) :
    library.extend (m := Id) read manifest base =
      addFiles (m := Id) read base
        (library.setFallback (found.fallback.getD library.fallback)) found.files.entries := by
  rw [extend, valid]
  rfl

/-- Names with texts of their own are written, and other names are not. -/
theorem extends_insertAll {manifest base : Text} {found : Manifest} {texts : List (Text × Text)}
    (valid : Manifest.parse? manifest = some found)
    (pairs : List.Forall₂ (Gives read base) found.files.entries texts) (library : Library) :
    Extends read library manifest base
      (.ok ((library.setFallback (found.fallback.getD library.fallback)).insertAll texts)) := by
  have names := Gives.map_fst pairs
  have nodup : (texts.map Prod.fst).Nodup := names ▸ found.files.keys_nodup
  refine .extended valid ?_ ?_ (by rw [insertAll_eq]; rfl)
  · intro name file listed
    obtain ⟨text, given, hm⟩ := Gives.exists_mem pairs (Dict.find?_eq_some_iff.1 listed)
    have last := Dict.isLast_iff_lookup_reverse.1 ((Dict.isLast_iff_mem nodup).2 hm)
    exact ⟨text, given, by rw [find?_insertAll, last, Option.some_or]⟩
  · intro name unlisted
    have absent : name ∉ texts.map Prod.fst := names ▸ Dict.lookup_eq_none_iff_not_mem.1 unlisted
    have none : texts.reverse.lookup name = none := by
      rwa [Dict.lookup_eq_none_iff_not_mem, List.map_reverse, List.mem_reverse]
    rw [find?_insertAll, none, Option.none_or]
    rfl

/-- The files of a manifest stand in the order of their names, so the first that cannot be read has
the least name. -/
theorem extends_unreadable {manifest base name file : Text} {found : Manifest}
    {before after : List (Text × Text)} {reason : ReadFailure}
    (valid : Manifest.parse? manifest = some found)
    (split : found.files.entries = before ++ (name, file) :: after)
    (fine : ∀ other ∈ before, ∃ text, read (Path.join base other.2) = .ok text)
    (fails : read (Path.join base file) = .error reason) (library : Library) :
    Extends read library manifest base (.error (.unreadable (Path.join base file) reason)) := by
  have listed : found.files.find? name = some file := Dict.find?_eq_some_iff.2 (by simp [split])
  refine .unreadable valid listed fails ?_
  intro other path listed less
  have less : other < name := Text.bytes_lt_iff.1 less
  have ascending := found.files.ascending
  rw [split] at ascending
  have later := (List.pairwise_cons.1 (List.pairwise_append.1 ascending).2.1).1
  rw [Dict.find?_eq_some_iff, split, List.mem_append, List.mem_cons] at listed
  rcases listed with earlier | same | after
  · exact fine _ earlier
  · cases same
    exact absurd less (List.lt_irrefl _)
  · exact absurd (later _ after) (List.lt_asymm less)

theorem extends_extend (library : Library) (manifest base : Text) :
    Extends read library manifest base (library.extend (m := Id) read manifest base) := by
  cases valid : Manifest.parse? manifest with
  | none =>
    rw [extend_of_parse_none read valid]
    exact .badManifest valid
  | some found =>
    rw [extend_of_parse read valid]
    rcases addFiles_cases read base (library.setFallback (found.fallback.getD library.fallback))
      found.files.entries with
      ⟨texts, -, pairs, added⟩ | ⟨before, name, file, after, reason, split, -, fine, fails, stopped⟩
    · rw [added]
      exact extends_insertAll read valid pairs library
    · rw [stopped]
      exact extends_unreadable read valid split fine fails library

/-- A manifest is taken over exactly if it is one and every file that it lists can be read. -/
theorem extend_eq_ok_iff (library : Library) (manifest base : Text) :
    (∃ extended, library.extend (m := Id) read manifest base = .ok extended) ↔
      ∃ found, Manifest.parse? manifest = some found ∧ ∀ name file,
        found.files.find? name = some file → ∃ text, read (Path.join base file) = .ok text := by
  have outcome := extends_extend read library manifest base
  constructor
  · rintro ⟨extended, he⟩
    rw [he] at outcome
    cases outcome with
    | extended valid listed =>
      refine ⟨_, valid, fun name file hf => ?_⟩
      obtain ⟨text, given, -⟩ := listed name file hf
      exact ⟨text, given⟩
  · rintro ⟨found, valid, readable⟩
    cases he : library.extend (m := Id) read manifest base with
    | ok extended => exact ⟨extended, rfl⟩
    | error error =>
      rw [he] at outcome
      cases outcome with
      | badManifest none => cases valid.symm.trans none
      | unreadable valid' listed fails =>
        obtain rfl := Option.some.inj (valid.symm.trans valid')
        obtain ⟨text, given⟩ := readable _ _ listed
        cases given.symm.trans fails

end Files

/-- One change of a library. -/
inductive Change where
  | insert (name source : Text)
  | setFallback (name : Text)
  | extend (manifest base : Text)

section Changes

variable (read : Text → Except ReadFailure Text)

def Change.apply (library : Library) : Change → Except Library.Error Library
  | insert name source => .ok (library.insert name source)
  | setFallback name => .ok (library.setFallback name)
  | extend manifest base => library.extend (m := Id) read manifest base

/-- The library after changes one after the other. A change that fails leaves it as it was. -/
def after (library : Library) (changes : List Change) : Library :=
  changes.foldl (fun library change => (change.apply read library).toOption.getD library) library

/-- What a manifest brings with it: the texts of its files and its fallback. If it is no manifest,
or if one of its files cannot be read, it brings nothing. -/
def brought? (manifest base : Text) : Option (List (Text × Text) × Option Text) := do
  let found ← Manifest.parse? manifest
  let texts ← texts? read base found.files.entries
  return (texts, found.fallback)

/-- The texts that a change writes, each under its name. -/
def Change.texts : Change → List (Text × Text)
  | insert name source => [(name, source)]
  | setFallback _ => []
  | extend manifest base => (brought? read manifest base).elim [] Prod.fst

def Change.fallback? : Change → Option Text
  | insert _ _ => none
  | setFallback name => some name
  | extend manifest base => (brought? read manifest base).bind Prod.snd

theorem toOption_extend (library : Library) (manifest base : Text) :
    (library.extend (m := Id) read manifest base).toOption =
      (brought? read manifest base).map fun brought =>
        (library.setFallback (brought.2.getD library.fallback)).insertAll brought.1 := by
  unfold brought?
  cases valid : Manifest.parse? manifest with
  | none =>
    rw [extend_of_parse_none read valid]
    rfl
  | some found =>
    rw [extend_of_parse read valid, Option.bind_eq_bind, Option.bind_some]
    rcases addFiles_cases read base (library.setFallback (found.fallback.getD library.fallback))
      found.files.entries with
      ⟨texts, all, -, added⟩ | ⟨_, _, _, _, _, -, none, -, -, stopped⟩
    · rw [all, added]
      rfl
    · rw [none, stopped]
      rfl

/-- A change writes its texts over the others and sets its fallback. -/
theorem Change.apply_getD (library : Library) (change : Change) :
    (change.apply read library).toOption.getD library =
      { sources := (change.texts read).foldl (fun dict entry => dict.insert entry.1 entry.2)
          library.sources
        fallback := (change.fallback? read).getD library.fallback } := by
  cases change with
  | insert name source => rfl
  | setFallback name => rfl
  | extend manifest base =>
    rw [apply, toOption_extend, texts, fallback?]
    cases brought? read manifest base with
    | none => rfl
    | some brought =>
      rw [Option.map_some, Option.getD_some, insertAll_eq]
      rfl

theorem after_eq (library : Library) (changes : List Change) :
    after read library changes = {
      sources := (changes.flatMap (Change.texts read)).foldl
        (fun dict entry => dict.insert entry.1 entry.2) library.sources
      fallback := (changes.filterMap (Change.fallback? read)).getLast?.getD library.fallback } := by
  induction changes generalizing library with
  | nil => rfl
  | cons change changes ih =>
    have next : after read library (change :: changes) =
        after read ((change.apply read library).toOption.getD library) changes := rfl
    rw [next, ih, Change.apply_getD, List.flatMap_cons, List.foldl_append]
    cases set : change.fallback? read with
    | none => rw [List.filterMap_cons_none set, Option.getD_none]
    | some name =>
      rw [List.filterMap_cons_some set, List.getLast?_cons, Option.getD_some, Option.getD_some]

end Changes

/-- What a lookup finds among texts that were written one after the other. -/
inductive Finds (written : List (Text × Text)) (fallback name : Text) :
    Except Library.Error (Text × Text) → Prop where
  | known {source : Text} (last : Dict.IsLast written name source) :
    Finds written fallback name (.ok (name, source))
  | fallback {source : Text} (never : name ∉ written.map Prod.fst)
    (last : Dict.IsLast written fallback source) :
    Finds written fallback name (.ok (fallback, source))
  | missing (never : name ∉ written.map Prod.fst) (nor : fallback ∉ written.map Prod.fst) :
    Finds written fallback name (.error (.notFound name fallback))

/-- A library that is what was written to it, the last text of a name over the earlier ones. -/
structure Holds (library : Library) (written : List (Text × Text)) (fallback : Text) : Prop where
  fallback_eq : library.fallback = fallback
  find : ∀ name, Finds written fallback name (library.find name)
  mem_names : ∀ name, name ∈ library.names ↔ name ∈ written.map Prod.fst
  /-- The names ascend byte by byte, so none comes twice. -/
  ascending : library.names.Pairwise fun a b => Text.bytes a < Text.bytes b

theorem holds_ofList (written : List (Text × Text)) (fallback : Text) :
    Holds ⟨Dict.ofList written, fallback⟩ written fallback := by
  refine ⟨rfl, fun name => ?_, fun name => ?_, ?_⟩
  · unfold find
    dsimp only
    cases hn : (Dict.ofList written).find? name with
    | some source => exact .known (Dict.find?_ofList.1 hn)
    | none =>
      have never := Dict.find?_ofList_eq_none_iff.1 hn
      dsimp only
      cases hf : (Dict.ofList written).find? fallback with
      | some source => exact .fallback never (Dict.find?_ofList.1 hf)
      | none => exact .missing never (Dict.find?_ofList_eq_none_iff.1 hf)
  · rw [names, Dict.mem_keys_iff, ← Option.ne_none_iff_exists', ne_eq,
      Dict.find?_ofList_eq_none_iff, not_not]
  · simp only [names, Dict.keys, List.pairwise_map, Text.bytes_lt_iff]
    exact (Dict.ofList written).ascending

/-- A library is the last of what was written to it under each name, by single texts and by
manifests that were taken over. The first texts are those that it started with: none for the empty
library, and three for the standard one. -/
theorem last_write_holds (read : Text → Except ReadFailure Text) (start : Library)
    (changes : List Change) :
    Holds (start.after read changes)
        (start.sources.entries ++ changes.flatMap (Change.texts read))
        ((changes.filterMap (Change.fallback? read)).getLast?.getD start.fallback) ∧
      empty.sources.entries = [] ∧
      standard.sources.entries =
        [("house".toList, house), ("pen".toList, pen), ("tower".toList, tower)] ∧
      empty.fallback = "house".toList ∧ standard.fallback = "house".toList ∧
      ∀ (library : Library) (manifest base : Text),
        Extends read library manifest base (library.extend (m := Id) read manifest base) ∧
        ((∃ extended, library.extend (m := Id) read manifest base = .ok extended) ↔
          ∃ found, Manifest.parse? manifest = some found ∧
            ∀ name file, found.files.find? name = some file →
              ∃ text, read (Path.join base file) = .ok text) := by
  refine ⟨?_, rfl, rfl, rfl, rfl, fun library manifest base =>
    ⟨extends_extend read library manifest base, extend_eq_ok_iff read library manifest base⟩⟩
  rw [after_eq, ← Dict.ofList_entries start.sources, ← Dict.ofList_append, Dict.ofList_entries]
  exact holds_ofList _ _

end Library
end VoxelTemplate
