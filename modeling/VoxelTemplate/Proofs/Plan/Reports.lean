import VoxelTemplate.Proofs.Plan.Passes
import VoxelTemplate.Proofs.Spec.Problems

/-! The diagnostics of a plan: first what is wrong with the margin of the base, then cell by cell in
the order of the grid what is wrong there. Everything that is wrong is reported, and once. -/
namespace VoxelTemplate

/-- Items that give `b` once or not at all give it as often as there are items that give it. -/
theorem count_flatMap_eq_length_filter {α β : Type} [DecidableEq β] {items : List α}
    {f : α → List β} {b : β} (h : ∀ a ∈ items, b ∈ f a → (f a).count b = 1) :
    (items.flatMap f).count b = (items.filter fun a => b ∈ f a).length := by
  induction items with
  | nil => rfl
  | cons a items ih =>
    have rest := ih fun c hc => h c (List.mem_cons_of_mem _ hc)
    rw [List.flatMap_cons, List.count_append, rest]
    by_cases hb : b ∈ f a
    · rw [h a List.mem_cons_self hb, List.filter_cons_of_pos (by simpa using hb), List.length_cons,
        Nat.add_comm]
    · rw [List.count_eq_zero_of_not_mem hb, List.filter_cons_of_neg (by simpa using hb),
        Nat.zero_add]

namespace Plan

section Problems

variable (template : Template) (settings : Settings)

/-- A margin of the base that is no coordinate. -/
inductive MarginProblem : Diagnostic → Prop where
  | intro {base : Base} {value : Text} (hb : template.base = some base)
    (hv : base.get? marginKey = some value) (hw : ¬ Coord.Written (Text.trim value)) :
    MarginProblem (.invalidMargin value)

/-- A key without a definition. -/
inductive KeyProblem (cell : Cell) : Diagnostic → Prop where
  | intro (h : template.spec? (template.key cell) = none) :
    KeyProblem cell (.undefinedKey (template.key cell) cell)

/-- All that can be wrong with a cell. The stand-in for an undefined key is a specification like
any other, and can be wrong as well. -/
inductive CellProblem (cell : Cell) (d : Diagnostic) : Prop where
  | key (h : KeyProblem template cell d)
  | count (h : Spec.CountProblem (raw template settings cell) d)
  | tile (h : Spec.TileProblem (raw template settings cell) d)

/-- The reports of one cell: its key, the count of its specification, the tile data. -/
inductive CellReports (cell : Cell) : List Diagnostic → Prop where
  | intro {keys counts tiles : List Diagnostic} (hk : Reports (KeyProblem template cell) keys)
    (hc : Reports (Spec.CountProblem (raw template settings cell)) counts)
    (ht : Reports (Spec.TileProblem (raw template settings cell)) tiles) :
    CellReports cell (keys ++ counts ++ tiles)

variable {template settings} {cell : Cell} {found : List Diagnostic}

theorem CellReports.mem_iff (h : CellReports template settings cell found) (d : Diagnostic) :
    d ∈ found ↔ CellProblem template settings cell d := by
  obtain ⟨hk, hc, ht⟩ := h
  simp only [List.mem_append, hk.mem_iff, hc.mem_iff, ht.mem_iff]
  constructor
  · rintro ((h | h) | h)
    · exact .key h
    · exact .count h
    · exact .tile h
  · rintro (h | h | h)
    · exact .inl (.inl h)
    · exact .inl (.inr h)
    · exact .inr h

/-- Problems of different sorts have different reports, so none comes twice. -/
theorem CellReports.count_eq_one (h : CellReports template settings cell found) {d : Diagnostic}
    (hd : CellProblem template settings cell d) : found.count d = 1 := by
  obtain ⟨hk, hc, ht⟩ := h
  rw [List.count_append, List.count_append]
  cases hd with
  | key h =>
    have counts := hc.count_eq_zero (d := d) (by cases h; nofun)
    have tiles := ht.count_eq_zero (d := d) (by cases h; nofun)
    rw [hk.count_eq_one h, counts, tiles]
  | count h =>
    have keys := hk.count_eq_zero (d := d) (by cases h; nofun)
    have tiles := ht.count_eq_zero (d := d) (by cases h; nofun)
    rw [hc.count_eq_one h, keys, tiles]
  | tile h =>
    have keys := hk.count_eq_zero (d := d) (by cases h; nofun)
    have counts := hc.count_eq_zero (d := d) (by cases h; nofun)
    rw [ht.count_eq_one h, keys, counts]

end Problems

section Found

variable (template : Template) (settings : Settings)

theorem reports_margin :
    Reports (MarginProblem template) (template.base.elim [] fun base => (margin base).2) := by
  cases hb : template.base with
  | none =>
    refine .none ?_
    rintro _ ⟨hb', -, -⟩
    cases hb.symm.trans hb'
  | some base =>
    have same {base' : Base} {value : Text} (hb' : template.base = some base')
        (hv : base'.get? marginKey = some value) : base.get? marginKey = some value := by
      rwa [Option.some.inj (hb.symm.trans hb')]
    rw [Option.elim_some, margin]
    cases hv : base.get? marginKey with
    | none =>
      refine .none ?_
      rintro _ ⟨hb', hv', -⟩
      cases hv.symm.trans (same hb' hv')
    | some value =>
      cases hr : Coord.read? (Text.trim value) with
      | none =>
        simp only [hr]
        refine .one ⟨hb, hv, Coord.read?_eq_none_iff.1 hr⟩ ?_
        rintro _ ⟨hb', hv', -⟩
        rw [Option.some.inj (hv.symm.trans (same hb' hv'))]
      | some n =>
        simp only [hr]
        refine .none ?_
        rintro _ ⟨hb', hv', hw⟩
        rw [← Option.some.inj (hv.symm.trans (same hb' hv'))] at hw
        cases hr.symm.trans (Coord.read?_eq_none_iff.2 hw)

theorem reports_rawSpec (cell : Cell) :
    Reports (KeyProblem template cell) (rawSpec template settings cell).2 := by
  rw [rawSpec]
  cases hs : template.spec? (template.key cell) with
  | none =>
    refine .one ⟨hs⟩ ?_
    rintro _ ⟨-⟩
    rfl
  | some raw =>
    refine .none ?_
    rintro _ ⟨h⟩
    cases hs.symm.trans h

theorem cellReports_place (origin : Position) (facing : Facing) (cell : Cell) :
    CellReports template settings cell (place template origin facing settings cell).2 := by
  obtain ⟨counts, tiles, he, hc, ht⟩ :=
    Spec.reports_read settings facing (rawSpec template settings cell).1
  have found : (place template origin facing settings cell).2 =
      (rawSpec template settings cell).2 ++
        (Spec.read settings facing (rawSpec template settings cell).1).2 := rfl
  rw [found, he, ← List.append_assoc]
  rw [rawSpec_fst] at hc ht
  exact .intro (reports_rawSpec template settings cell) hc ht

end Found

/-- Everything that is wrong is reported, in order. -/
structure Diagnosed (template : Template) (settings : Settings) (plan : Plan)
    (margin : List Diagnostic) (reports : Cell → List Diagnostic) : Prop where
  /-- The margin comes first, and then the cells as they stand in the grid. -/
  ordered : plan.diagnostics = margin ++ template.extent.cells.flatMap reports
  margin : Reports (MarginProblem template) margin
  cell : ∀ cell, template.extent.Has cell → CellReports template settings cell (reports cell)
  /-- Nothing is reported exactly if nothing is wrong. -/
  clean : plan.diagnostics = [] ↔ (∀ d, ¬ MarginProblem template d) ∧
    ∀ cell, template.extent.Has cell → ∀ d, ¬ CellProblem template settings cell d
  /-- A problem of cells is reported once for every cell that has it. -/
  counted : ∀ d, ¬ MarginProblem template d →
    plan.diagnostics.count d = (template.extent.cells.filter fun cell => d ∈ reports cell).length
  /-- The cells with a faulty specification report it as often as they are many. -/
  repeated : ∀ key raw, template.spec? key = some raw →
    ∀ d, Spec.CountProblem raw d ∨ Spec.TileProblem raw d →
      ((template.extent.cells.filter (template.key · = key)).flatMap reports).count d =
        (template.extent.cells.filter (template.key · = key)).length
  /-- What is wrong with a cell does not keep it from being placed. -/
  placed : ∀ cell, template.extent.Has cell → ∃ placement ∈ plan.placements, placement.cell = cell

/-- A plan reports what is wrong with its template, all of it and nothing else. -/
theorem diagnosed_make (template : Template) (anchor : Position) (facing : Facing)
    (settings : Settings) : ∃ margin reports,
      Diagnosed template settings (make template anchor facing settings) margin reports := by
  let reports (cell : Cell) :=
    (place template (Geometry.origin anchor facing template.offset) facing settings cell).2
  have margin := reports_margin template
  have cell (cell : Cell) : CellReports template settings cell (reports cell) :=
    cellReports_place template settings _ facing cell
  have once (d : Diagnostic) (c : Cell) (h : d ∈ reports c) : (reports c).count d = 1 :=
    (cell c).count_eq_one (((cell c).mem_iff d).1 h)
  have ordered : (make template anchor facing settings).diagnostics =
      (template.base.elim [] fun base => (Plan.margin base).2) ++
        template.extent.cells.flatMap reports := by
    simp only [make, List.flatMap_map, reports]
  refine ⟨_, reports, ordered, margin, fun c _ => cell c, ?_, ?_, ?_, ?_⟩
  · rw [ordered, List.append_eq_nil_iff, margin.eq_nil_iff, List.flatMap_eq_nil_iff]
    simp only [List.eq_nil_iff_forall_not_mem, (cell _).mem_iff, Extent.mem_cells]
  · intro d hd
    rw [ordered, List.count_append, margin.count_eq_zero hd, Nat.zero_add]
    exact count_flatMap_eq_length_filter fun c _ => once d c
  · intro key raw hs d hd
    have faulty : ∀ c, template.key c = key → CellProblem template settings c d := by
      rintro c rfl
      have : Plan.raw template settings c = raw := by rw [Plan.raw, hs, Option.getD_some]
      rcases hd with h | h
      · exact .count (this ▸ h)
      · exact .tile (this ▸ h)
    rw [count_flatMap_eq_length_filter fun c _ => once d c]
    congr 1
    refine List.filter_eq_self.2 fun c hc => ?_
    have used : template.key c = key := of_decide_eq_true (List.mem_filter.1 hc).2
    simpa using ((cell c).mem_iff d).2 (faulty c used)
  · intro c hc
    exact ⟨_, (mem_placements template anchor facing settings).2 ⟨c, hc, rfl⟩, rfl⟩

/-- A fence gate with two spaces before its tile data. The word between the spaces has no characters
and stands for the value `2`, which the table of fence gates does not have. So there is a report,
though all words that have characters are known. -/
theorem gap_in_fence_gate_reported :
    let source := Text.ofLines ["g=fence_gate  1", " g"]
    let template := Template.ofLines (Line.ofSource source)
    let plan := make template ⟨.zero, { val := 64 }, .zero⟩ .north .default
    Template.parse source = .ok template ∧ template.base = none ∧
      (∀ cell, template.extent.Has cell → template.spec? (template.key cell) ≠ none ∧
        (raw template .default cell).head? ≠ some '$' ∧
        ∀ id word words kind, Spec.Worded (raw template .default cell) id (word :: words) →
          Orientation.ofBlock? id = some kind → word = [] ∨ word ∈ kind.keys) ∧
      plan.diagnostics = [.unknownTile .fenceGate ['2']] := by
  intro source template plan
  have parsed : Template.parse source = .ok template := by decide +kernel
  have cells : template.extent.cells = [⟨0, 0, 0⟩] := by decide +kernel
  have defined : template.spec? (template.key ⟨0, 0, 0⟩) ≠ none := by decide +kernel
  have unmarked : (raw template .default ⟨0, 0, 0⟩).head? ≠ some '$' := by decide +kernel
  have gap : Spec.tail (raw template .default ⟨0, 0, 0⟩) = [[], ['1']] := by decide +kernel
  have found : plan.diagnostics = [.unknownTile .fenceGate ['2']] := by decide +kernel
  refine ⟨parsed, rfl, ?_, found⟩
  intro cell hc
  obtain rfl : cell = ⟨0, 0, 0⟩ := by simpa [cells] using Extent.mem_cells.2 hc
  refine ⟨defined, unmarked, ?_⟩
  intro id word words kind worded _
  have tail := (Spec.worded_iff_name_tail.1 worded).2
  exact .inl (List.cons.inj (tail.symm.trans gap)).1

end Plan
end VoxelTemplate
