import VoxelTemplate.Proofs.Template.Bodies
import VoxelTemplate.Proofs.Template.Said
import VoxelTemplate.Proofs.Template.Verdict

/-! Writing a template down and reading it back. Every template whose words fit the format has a
text, and parsing any of its texts gives back the template. -/
namespace VoxelTemplate

namespace Template

/-- Keys and specifications that fit on the line of a definition, layers of one extent, and a base
that fits on its line. -/
structure Printable (extent : Extent) (template : Template) : Prop where
  keys : ∀ e ∈ template.specs.entries,
    '=' ∉ e.1 ∧ '\n' ∉ e.1 ∧ Text.trim e.1 = e.1 ∧ e.1.head? ≠ some '#'
  values : ∀ e ∈ template.specs.entries, '\n' ∉ e.2 ∧ Text.trim e.2 = e.2
  deep : 0 < extent.depth
  depth : template.layers.length = extent.depth
  layers : ∀ layer ∈ template.layers, layer.Printable ∧ layer.Matches extent.height extent.width
  base : ∀ base ∈ template.base, base.Printable

def definitionLine (entry : Text × Text) : Text := entry.1 ++ '=' :: entry.2

/-- The bodies of the base lines, none or one, with the properties in some order. -/
inductive BaseBodies : Option Base → List Text → Prop where
  | none : BaseBodies none []
  | some {base : Base} {properties : List (Text × Text)}
    (h : properties.Perm base.properties.entries) :
    BaseBodies (some base) [Base.bodyText base.block properties]

/-- The definitions, the offset, the base and the layers, each on a line. -/
def printedLines (template : Template) (specs : List (Text × Text)) (bodies : List Text) :
    List Text :=
  specs.map definitionLine ++
    (Line.offsetMark ++ template.offset.bodyText) ::
      (bodies.map (fun body => Line.baseMark ++ body) ++
        template.layers.map fun layer => ' ' :: layer.bodyText)

/-- What the printed lines say. -/
def parts (template : Template) (specs : List (Text × Text)) (bodies : List Text) : List Line :=
  specs.map (fun e => .definition e.1 e.2) ++
    .offset template.offset.bodyText ::
      (bodies.map .base ++ template.layers.map fun layer => .layer layer.bodyText)

/-- A text of a template, its definitions in some order. The last line may end in a line feed or
with the text. -/
inductive Printed (template : Template) : Text → Prop where
  | closed {specs : List (Text × Text)} {bodies : List Text}
    (hs : specs.Perm template.specs.entries) (hb : BaseBodies template.base bodies) :
    Printed template ((printedLines template specs bodies).flatMap fun line => line ++ ['\n'])
  | bare {specs : List (Text × Text)} {bodies : List Text}
    (hs : specs.Perm template.specs.entries) (hb : BaseBodies template.base bodies) :
    Printed template (Text.join ['\n'] (printedLines template specs bodies))

section Lines

variable {extent : Extent} {template : Template} {specs : List (Text × Text)} {bodies : List Text}

theorem BaseBodies.map_read {base : Option Base} (h : BaseBodies base bodies)
    (hp : ∀ b ∈ base, b.Printable) : bodies.map Base.read = base.toList.map Except.ok := by
  cases h with
  | none => rfl
  | some h =>
    have := (hp _ rfl).read_bodyText h
    rw [List.map_singleton, this]
    rfl

theorem BaseBodies.phrase {base : Option Base} (h : BaseBodies base bodies)
    (hp : ∀ b ∈ base, b.Printable) : ∀ body ∈ bodies, body.Phrase := by
  cases h with
  | none => simp
  | some h =>
    intro body hm
    obtain rfl := List.mem_singleton.1 hm
    exact .words (List.cons_ne_nil _ _) ((hp _ rfl).isWord h)

theorem Printable.kept (h : template.Printable extent) (hs : specs.Perm template.specs.entries)
    (hb : BaseBodies template.base bodies) :
    ∀ line ∈ printedLines template specs bodies, Line.Kept line := by
  intro line hl
  simp only [printedLines, List.mem_append, List.mem_cons, List.mem_map] at hl
  rcases hl with ⟨e, he, rfl⟩ | rfl | ⟨body, hm, rfl⟩ | ⟨layer, hm, rfl⟩
  · obtain ⟨-, hk, ht, -⟩ := h.keys e (hs.mem_iff.1 he)
    obtain ⟨hv, hw⟩ := h.values e (hs.mem_iff.1 he)
    have solid := Line.solid_definition ht hw
    exact .of_solid [] solid (by simp) (by simp [hk, hv])
  · have phrase := template.offset.phrase_bodyText
    exact .of_solid _ phrase.solid (by decide) phrase.no_feed
  · have phrase := hb.phrase h.base body hm
    exact .of_solid _ phrase.solid (by decide) phrase.no_feed
  · have phrase := (h.layers layer hm).1.phrase
    exact .of_solid [' '] phrase.solid (by decide) phrase.no_feed

theorem Printable.map_read (h : template.Printable extent)
    (hs : specs.Perm template.specs.entries) (hb : BaseBodies template.base bodies) :
    (printedLines template specs bodies).map Line.read = parts template specs bodies := by
  have definitions : (specs.map definitionLine).map Line.read =
      specs.map fun e => .definition e.1 e.2 := by
    rw [List.map_map]
    apply List.map_congr_left
    intro e he
    obtain ⟨heq, -, ht, hm⟩ := h.keys e (hs.mem_iff.1 he)
    exact Line.read_definition heq ht hm (h.values e (hs.mem_iff.1 he)).2
  have offset := Line.read_offset template.offset.phrase_bodyText
  have bases : (bodies.map fun body => Line.baseMark ++ body).map Line.read = bodies.map .base := by
    rw [List.map_map]
    apply List.map_congr_left
    intro body hm
    exact Line.read_base (hb.phrase h.base body hm)
  have layers : (template.layers.map fun layer => ' ' :: layer.bodyText).map Line.read =
      template.layers.map fun layer => .layer layer.bodyText := by
    rw [List.map_map]
    apply List.map_congr_left
    intro layer hm
    exact Line.read_layer (h.layers layer hm).1.phrase (h.layers layer hm).1.head?_ne
  rw [printedLines, List.map_append, List.map_cons, List.map_append, definitions, offset, bases,
    layers, parts]

end Lines

section Said

theorem said_eq {source : Text} {lines : List Text} (hk : ∀ line ∈ lines, Line.Kept line)
    (hs : Text.split '\n' source = lines) : said source = lines.map Line.read := by
  have whole : (Line.ofSource source).map Prod.fst = lines := by
    rw [Line.ofSource, Line.placeFrom_map_fst, hs]
    exact (List.map_congr_left fun line hl => (hk line hl).no_return).trans (List.map_id _)
  rw [said, ← whole, List.map_map]
  rfl

variable {extent : Extent} {template : Template} {source : Text}

/-- The lines of a printed text say the parts of the template; nothing follows but a blank line. -/
theorem Printable.said_eq (h : template.Printable extent) (hp : Printed template source) :
    ∃ (specs : List (Text × Text)) (bodies : List Text) (blank : List Line),
      specs.Perm template.specs.entries ∧
        bodies.map Base.read = template.base.toList.map Except.ok ∧
          (∀ a ∈ blank, a = Line.comment) ∧ said source = parts template specs bodies ++ blank := by
  cases hp with
  | @closed specs bodies hs hb =>
    refine ⟨specs, bodies, [.comment], hs, hb.map_read h.base, by simp, ?_⟩
    have kept := h.kept hs hb
    have lines := Text.split_flatMap fun line hl => (kept line hl).no_feed
    rw [Template.said_eq ?_ lines, List.map_append, h.map_read hs hb]
    · rfl
    · intro line hl
      rcases List.mem_append.1 hl with hl | hl
      · exact kept line hl
      · obtain rfl := List.mem_singleton.1 hl
        exact ⟨by simp, rfl⟩
  | @bare specs bodies hs hb =>
    refine ⟨specs, bodies, [], hs, hb.map_read h.base, by simp, ?_⟩
    have kept := h.kept hs hb
    have lines := Text.split_join (by simp [printedLines]) fun line hl => (kept line hl).no_feed
    rw [Template.said_eq kept lines, h.map_read hs hb, List.append_nil]

end Said

section Parts

variable {lines : List (Text × Span)} {template : Template} {specs : List (Text × Text)}
  {bodies : List Text} {blank : List Line}

/-- Lines that say the parts of a template give the template. -/
theorem ofLines_eq (hs : specs.Perm template.specs.entries)
    (hb : bodies.map Base.read = template.base.toList.map Except.ok)
    (hl : ∀ layer ∈ template.layers, readLayer layer.bodyText = layer)
    (hq : ∀ a ∈ blank, a = Line.comment)
    (h : lines.map (fun placed => Line.read placed.1) = parts template specs bodies ++ blank) :
    ofLines lines = template := by
  have quiet {β : Type} {f : Line → Option β} (hf : f .comment = none) :
      blank.filterMap f = [] :=
    List.filterMap_eq_nil_iff.2 fun a ha => by rw [hq a ha, hf]
  have said_definitions : definitions lines = specs := by
    rw [definitions_eq, h, parts]
    simp [List.filterMap_map, quiet]
  have said_layers : (placedLayers lines).map Prod.fst = template.layers := by
    have cut : template.layers.map (fun layer => readLayer layer.bodyText) = template.layers :=
      (List.map_congr_left hl).trans (List.map_id _)
    rw [map_fst_placedLayers, h, parts]
    simpa [List.filterMap_map, quiet] using cut
  have said_offsets : offsets lines = [template.offset] := by
    rw [offsets_eq, h, parts]
    have reads : (Offset.read template.offset.bodyText).toOption = some template.offset := by
      rw [Offset.read_bodyText]
      rfl
    simp [List.filterMap_map, quiet, reads]
  have said_bases : bases lines = template.base.toList := by
    have reads : bodies.filterMap (fun body => (Base.read body).toOption) =
        template.base.toList := by
      have := congrArg (List.filterMap Except.toOption) hb
      rw [List.filterMap_map, List.filterMap_map] at this
      simpa [Function.comp_def, Except.toOption] using this
    rw [bases_eq, h, parts]
    simpa [List.filterMap_map, quiet] using reads
  rw [ofLines, said_definitions, said_layers, said_offsets, said_bases, Dict.ofList_of_perm hs]
  cases template with
  | mk _ _ _ base => cases base <;> rfl

end Parts

section RoundTrip

variable {extent : Extent} {template : Template} {source : Text}

/-- A line is sound if the body of its directive, where it has one, reads. -/
def Sound : Line → Prop
  | .offset body => ∃ offset, Offset.read body = .ok offset
  | .base body => ∃ base, Base.read body = .ok base
  | _ => True

theorem lineFault?_of_sound {line : Text} (span : Span) (h : Sound (Line.read line)) :
    lineFault? line span = none := by
  unfold lineFault?
  split
  · next body hr =>
    rw [hr] at h
    obtain ⟨offset, ho⟩ := h
    simp [ho]
  · next body hr =>
    rw [hr] at h
    obtain ⟨base, hb⟩ := h
    simp [hb]
  · rfl

theorem Printable.first (h : template.Printable extent) :
    ∃ first rest, template.layers = first :: rest ∧ first.length = extent.height ∧
      (first.headD []).length = extent.width := by
  have deep : template.layers ≠ [] := by
    rw [← List.length_pos_iff, h.depth]
    exact h.deep
  obtain ⟨first, rest, hl⟩ := List.exists_cons_of_ne_nil deep
  obtain ⟨hp, hm⟩ := h.layers first (by simp [hl])
  obtain ⟨row, rows, hr⟩ := List.exists_cons_of_ne_nil hp.tall
  exact ⟨first, rest, hl, hm.1, by simpa [hr] using hm.2 row (by simp [hr])⟩

theorem Printable.uniform (h : template.Printable extent) : Uniform template.layers := by
  obtain ⟨first, rest, hl, hr, hc⟩ := h.first
  refine ⟨first, rest, hl, ?_⟩
  intro layer hm
  rw [hr, hc]
  exact (h.layers layer hm).2

theorem Printable.extent_eq (h : template.Printable extent) : template.extent = extent := by
  obtain ⟨first, rest, hl, hr, hc⟩ := h.first
  have hd := h.depth
  obtain ⟨depth, height, width⟩ := extent
  simp only [Template.extent, hl, List.headD_cons] at hd ⊢
  rw [hr, hc, hd]

theorem sound_said {specs : List (Text × Text)} {bodies : List Text} {blank : List Line}
    (hb : bodies.map Base.read = template.base.toList.map Except.ok)
    (hq : ∀ a ∈ blank, a = Line.comment)
    (h : said source = parts template specs bodies ++ blank) :
    ∀ a ∈ said source, Sound a := by
  intro a ha
  simp only [h, parts, List.mem_append, List.mem_cons, List.mem_map] at ha
  rcases ha with (⟨e, -, rfl⟩ | rfl | ⟨body, hm, rfl⟩ | ⟨layer, -, rfl⟩) | ha
  · trivial
  · exact ⟨_, template.offset.read_bodyText⟩
  · have read : Base.read body ∈ template.base.toList.map Except.ok :=
      hb ▸ List.mem_map_of_mem hm
    obtain ⟨base, -, he⟩ := List.mem_map.1 read
    exact ⟨base, he.symm⟩
  · trivial
  · rw [hq a ha]
    trivial

/-- Parsing a text of a template gives back the template, with the extent it was written in. -/
theorem parse_printed (h : template.Printable extent) (hp : Printed template source) :
    parse source = .ok template ∧ template.extent = extent := by
  obtain ⟨specs, bodies, blank, hs, hb, hq, hsaid⟩ := h.said_eq hp
  have layers : ∀ layer ∈ template.layers, readLayer layer.bodyText = layer :=
    fun layer hm => (h.layers layer hm).1.readLayer_bodyText
  have whole := ofLines_eq hs hb layers hq hsaid
  have sound := sound_said hb hq hsaid
  have directives : (Line.ofSource source).filterMap
      (fun placed => lineFault? placed.1 placed.2) = [] :=
    List.filterMap_eq_nil_iff.2 fun placed hm =>
      lineFault?_of_sound placed.2 (sound _ (List.mem_map_of_mem hm))
  have shape : shapeFaults (Text.byteSize source) (placedLayers (Line.ofSource source)) = [] := by
    refine (shapeVerdict _ _).eq_nil_iff.2 ?_
    have := h.uniform
    rwa [← whole] at this
  have faultless : faults source = [] := by
    rw [faults, shape, List.append_nil]
    exact directives
  refine ⟨?_, h.extent_eq⟩
  rw [parse, faultless, whole]

end RoundTrip

/-- Two layers of one row each, on a base, as far down as a template can stand. -/
def hut : Template where
  specs := .ofList [("a".toList, "oak_log".toList), ("b".toList, "facing=up".toList)]
  layers := [[["a".toList, "b".toList]], [["b".toList, "#".toList]]]
  offset := ⟨.zero, .least, .zero⟩
  base := some ⟨"stone".toList, .ofList [("margin".toList, "2".toList)]⟩

def hutText : Text := Text.ofLines
  ["a=oak_log", "b=facing=up", "> offset 0 -2147483648 0", "> base stone margin:2", " a b", " b #"]

theorem parse_printed_hut :
    hut.Printable ⟨2, 1, 2⟩ ∧ Printed hut hutText ∧
      parse hutText = .ok hut ∧ hut.extent = ⟨2, 1, 2⟩ := by
  have fits : hut.Printable ⟨2, 1, 2⟩ := by
    constructor <;> decide
  have base : BaseBodies hut.base
      [Base.bodyText "stone".toList [("margin".toList, "2".toList)]] := .some (.refl _)
  have lines : (printedLines hut hut.specs.entries
      [Base.bodyText "stone".toList [("margin".toList, "2".toList)]]).flatMap
        (fun line => line ++ ['\n']) = hutText := by decide +kernel
  have text : Printed hut hutText := lines ▸ .closed (.refl _) base
  exact ⟨fits, text, parse_printed fits text⟩

end Template
end VoxelTemplate
