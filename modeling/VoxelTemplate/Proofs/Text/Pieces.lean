import VoxelTemplate.Text.Blank

/-! Cutting texts at separators and joining them again, and what trimming leaves of a text that
begins and ends with characters of its own. -/
namespace VoxelTemplate.Text

section Split

variable {sep : Char → Bool}

theorem consFirst_append (c : Char) {pieces : List Text} (h : pieces ≠ []) (more : List Text) :
    consFirst c (pieces ++ more) = consFirst c pieces ++ more := by
  cases pieces with
  | nil => contradiction
  | cons piece pieces => rfl

/-- Everything about splitting follows from this equation at a separator. -/
theorem splitWhere_append_cons {c : Char} (hc : sep c = true) (left right : Text) :
    splitWhere sep (left ++ c :: right) = splitWhere sep left ++ splitWhere sep right := by
  induction left with
  | nil => simp [splitWhere, hc]
  | cons d left ih =>
    simp only [List.cons_append, splitWhere, ih]
    split
    · rfl
    · exact consFirst_append d (splitWhere_ne_nil sep left) _

theorem splitWhere_of_forall_not {text : Text} (h : ∀ c ∈ text, sep c = false) :
    splitWhere sep text = [text] := by
  induction text with
  | nil => rfl
  | cons c text ih =>
    have hc := h c List.mem_cons_self
    rw [splitWhere, hc, ih fun d hd => h d (List.mem_cons_of_mem _ hd)]
    rfl

theorem splitWhere_join {c : Char} (hc : sep c = true) {pieces : List Text} (hne : pieces ≠ [])
    (h : ∀ piece ∈ pieces, ∀ d ∈ piece, sep d = false) :
    splitWhere sep (join [c] pieces) = pieces := by
  induction pieces with
  | nil => contradiction
  | cons piece pieces ih =>
    have hpiece := splitWhere_of_forall_not (h piece List.mem_cons_self)
    cases pieces with
    | nil => exact hpiece
    | cons next pieces =>
      have hrest := ih (by simp) fun p hp => h p (List.mem_cons_of_mem _ hp)
      rw [join, List.append_assoc, List.singleton_append, splitWhere_append_cons hc, hpiece, hrest]
      rfl

theorem not_sep_of_mem_splitWhere {text piece : Text} (h : piece ∈ splitWhere sep text) :
    ∀ c ∈ piece, sep c = false := by
  induction text generalizing piece with
  | nil =>
    obtain rfl := List.mem_singleton.1 h
    simp
  | cons d text ih =>
    obtain ⟨first, rest, hp⟩ := List.exists_cons_of_ne_nil (splitWhere_ne_nil sep text)
    rw [hp] at ih
    rw [splitWhere, hp] at h
    split at h
    · rcases List.mem_cons.1 h with rfl | h
      · simp
      · exact ih h
    · next hd =>
      rcases List.mem_cons.1 h with rfl | h
      · intro c hc
        rcases List.mem_cons.1 hc with rfl | hc
        · simpa using hd
        · exact ih List.mem_cons_self c hc
      · exact ih (List.mem_cons_of_mem _ h)

theorem not_mem_of_mem_split {c : Char} {text piece : Text} (h : piece ∈ split c text) :
    c ∉ piece := fun hc => by
  simpa using not_sep_of_mem_splitWhere h c hc

theorem join_split (c : Char) (text : Text) : join [c] (split c text) = text := by
  induction text with
  | nil => rfl
  | cons d text ih =>
    obtain ⟨first, rest, hp⟩ := List.exists_cons_of_ne_nil (splitWhere_ne_nil (· = c) text)
    simp only [split, splitWhere, hp] at ih ⊢
    split
    · next hd =>
      obtain rfl : d = c := by simpa using hd
      rw [join, ih]
      rfl
    · cases rest with
      | nil => exact congrArg (List.cons d) ih
      | cons next rest => exact congrArg (List.cons d) ih

/-- The first piece begins as the text does, unless the text begins with a separator. -/
theorem head?_of_split {c d : Char} (hd : d ≠ c) {text first : Text} {more : List Text}
    (h : split c text = first :: more) : first.head? = some d ↔ text.head? = some d := by
  cases text with
  | nil =>
    obtain ⟨rfl, -⟩ := List.cons.inj h
    rfl
  | cons e text =>
    obtain ⟨piece, pieces, hp⟩ := List.exists_cons_of_ne_nil (splitWhere_ne_nil (· = c) text)
    rw [split, splitWhere, hp] at h
    split at h
    · next he =>
      obtain ⟨rfl, -⟩ := List.cons.inj h
      obtain rfl : e = c := by simpa using he
      simp [Ne.symm hd]
    · obtain ⟨rfl, -⟩ := List.cons.inj h
      rfl

theorem split_append_cons (c : Char) (left right : Text) :
    split c (left ++ c :: right) = split c left ++ split c right :=
  splitWhere_append_cons (by simp) left right

theorem split_of_not_mem {c : Char} {text : Text} (h : c ∉ text) : split c text = [text] := by
  apply splitWhere_of_forall_not
  intro d hd
  simp only [decide_eq_false_iff_not]
  rintro rfl
  exact h hd

theorem split_join {c : Char} {pieces : List Text} (hne : pieces ≠ [])
    (h : ∀ piece ∈ pieces, c ∉ piece) : split c (join [c] pieces) = pieces := by
  apply splitWhere_join (by simp) hne
  intro piece hp d hd
  simp only [decide_eq_false_iff_not]
  rintro rfl
  exact h piece hp hd

/-- Lines that each end in a line feed part again, with an empty one after the last. -/
theorem split_flatMap {c : Char} {pieces : List Text} (h : ∀ piece ∈ pieces, c ∉ piece) :
    split c (pieces.flatMap fun piece => piece ++ [c]) = pieces ++ [[]] := by
  induction pieces with
  | nil => rfl
  | cons piece pieces ih =>
    have hrest := ih fun p hp => h p (List.mem_cons_of_mem _ hp)
    rw [List.flatMap_cons, List.append_assoc, List.singleton_append, split_append_cons,
      split_of_not_mem (h piece List.mem_cons_self), hrest]
    rfl

end Split

section Join

theorem join_cons_cons (sep piece next : Text) (pieces : List Text) :
    join sep (piece :: next :: pieces) = piece ++ (sep ++ join sep (next :: pieces)) := by
  rw [join, List.append_assoc]

theorem head?_join (sep : Text) {piece : Text} (hne : piece ≠ []) (pieces : List Text) :
    (join sep (piece :: pieces)).head? = piece.head? := by
  obtain ⟨c, rest, rfl⟩ := List.exists_cons_of_ne_nil hne
  cases pieces <;> rfl

theorem mem_join {sep : Text} {pieces : List Text} {c : Char} (h : c ∈ join sep pieces) :
    c ∈ sep ∨ ∃ piece ∈ pieces, c ∈ piece := by
  induction pieces with
  | nil => simp [join] at h
  | cons piece pieces ih =>
    cases pieces with
    | nil => exact .inr ⟨piece, List.mem_cons_self, h⟩
    | cons next pieces =>
      rw [join_cons_cons, List.mem_append, List.mem_append] at h
      rcases h with h | h | h
      · exact .inr ⟨piece, List.mem_cons_self, h⟩
      · exact .inl h
      · exact (ih h).imp_right fun ⟨p, hp, hc⟩ => ⟨p, List.mem_cons_of_mem _ hp, hc⟩

end Join

section TripleSpace

theorem splitTripleSpace_cons {c : Char} (hc : c ≠ ' ') (text : Text) :
    splitTripleSpace (c :: text) = consFirst c (splitTripleSpace text) := by
  rw [splitTripleSpace]
  rintro text rfl
  contradiction

/-- One space by itself stays in its piece. -/
theorem splitTripleSpace_space {c : Char} (hc : c ≠ ' ') (text : Text) :
    splitTripleSpace (' ' :: c :: text) = consFirst ' ' (splitTripleSpace (c :: text)) := by
  rw [splitTripleSpace]
  rintro rest -
  simp [hc]

theorem splitTripleSpace_append {word rest piece : Text} {pieces : List Text} (hw : ' ' ∉ word)
    (h : splitTripleSpace rest = piece :: pieces) :
    splitTripleSpace (word ++ rest) = (word ++ piece) :: pieces := by
  induction word with
  | nil => exact h
  | cons c word ih =>
    rw [List.mem_cons, not_or] at hw
    rw [List.cons_append, splitTripleSpace_cons (Ne.symm hw.1), ih hw.2]
    rfl

/-- Words parted by single spaces stay in one piece. -/
theorem splitTripleSpace_row {keys : List Text} {rest piece : Text} {pieces : List Text}
    (hne : keys ≠ []) (hk : ∀ key ∈ keys, key ≠ [] ∧ ' ' ∉ key)
    (h : splitTripleSpace rest = piece :: pieces) :
    splitTripleSpace (join [' '] keys ++ rest) = (join [' '] keys ++ piece) :: pieces := by
  induction keys with
  | nil => contradiction
  | cons key keys ih =>
    have hkey := (hk key List.mem_cons_self).2
    cases keys with
    | nil => exact splitTripleSpace_append hkey h
    | cons next keys =>
      have tail := ih (by simp) fun k hm => hk k (List.mem_cons_of_mem _ hm)
      obtain ⟨hnext, hspace⟩ := hk next (by simp)
      obtain ⟨c, word, rfl⟩ := List.exists_cons_of_ne_nil hnext
      obtain ⟨after, ha⟩ : ∃ after, join [' '] ((c :: word) :: keys) ++ rest = c :: after := by
        cases keys with
        | nil => exact ⟨_, rfl⟩
        | cons => exact ⟨_, rfl⟩
      have space : splitTripleSpace (' ' :: (join [' '] ((c :: word) :: keys) ++ rest)) =
          (' ' :: (join [' '] ((c :: word) :: keys) ++ piece)) :: pieces := by
        rw [ha, splitTripleSpace_space (by rintro rfl; simp at hspace), ← ha, tail]
        rfl
      have whole := splitTripleSpace_append hkey space
      simpa only [join_cons_cons, List.append_assoc, List.singleton_append, List.cons_append,
        List.nil_append] using whole

theorem splitTripleSpace_join {rows : List (List Text)} (hne : rows ≠ [])
    (h : ∀ row ∈ rows, row ≠ [] ∧ ∀ key ∈ row, key ≠ [] ∧ ' ' ∉ key) :
    splitTripleSpace (join "   ".toList (rows.map (join [' ']))) = rows.map (join [' ']) := by
  induction rows with
  | nil => contradiction
  | cons row rows ih =>
    obtain ⟨hrow, hkeys⟩ := h row List.mem_cons_self
    cases rows with
    | nil =>
      have whole : splitTripleSpace (join [' '] row ++ []) = [join [' '] row ++ []] :=
        splitTripleSpace_row hrow hkeys rfl
      rw [List.append_nil] at whole
      exact whole
    | cons next rows =>
      have tail := ih (by simp) fun r hr => h r (List.mem_cons_of_mem _ hr)
      have gap : splitTripleSpace ("   ".toList ++
          join "   ".toList (join [' '] next :: rows.map (join [' ']))) =
          [] :: join [' '] next :: rows.map (join [' ']) := congrArg (List.cons []) tail
      have whole := splitTripleSpace_row hrow hkeys gap
      rw [List.map_cons, List.map_cons, join_cons_cons, whole, List.append_nil]

end TripleSpace

section Words

theorem words_append_cons {c : Char} (hc : isBlank c = true) (left right : Text) :
    words (left ++ c :: right) = words left ++ words right := by
  rw [words, splitWhere_append_cons hc, List.filter_append, words, words]

theorem words_cons {c : Char} (hc : isBlank c = true) (text : Text) :
    words (c :: text) = words text := words_append_cons hc [] text

theorem words_of_forall_not {word : Text} (hne : word ≠ []) (h : ∀ c ∈ word, isBlank c = false) :
    words word = [word] := by
  simp [words, splitWhere_of_forall_not h, hne]

/-- A text without words is blank throughout. -/
theorem words_eq_nil_iff {text : Text} : words text = [] ↔ ∀ c ∈ text, isBlank c = true := by
  induction text with
  | nil => simp [words, splitWhere]
  | cons c text ih =>
    cases hc : isBlank c with
    | true => simp [words_cons hc, ih, hc]
    | false =>
      obtain ⟨piece, pieces, hp⟩ := List.exists_cons_of_ne_nil (splitWhere_ne_nil isBlank text)
      simp [words, splitWhere, hc, hp, consFirst]

theorem words_join {words' : List Text}
    (h : ∀ word ∈ words', word ≠ [] ∧ ∀ c ∈ word, isBlank c = false) :
    words (join [' '] words') = words' := by
  induction words' with
  | nil => rfl
  | cons word rest ih =>
    obtain ⟨hne, hword⟩ := h word List.mem_cons_self
    cases rest with
    | nil => exact words_of_forall_not hne hword
    | cons next rest =>
      have hrest := ih fun w hw => h w (List.mem_cons_of_mem _ hw)
      rw [join, List.append_assoc, List.singleton_append, words_append_cons (by decide), hrest,
        words_of_forall_not hne hword]
      rfl

end Words

section Trim

theorem head?_trimEnd {text : Text} {c : Char} (hc : isBlank c = false) :
    (trimEnd (c :: text)).head? = some c := by
  have keep : ((text.reverse ++ [c]).dropWhile isBlank).getLast? = some c := by
    rw [List.dropWhile_append]
    split <;> simp [List.dropWhile, hc]
  simp [trimEnd, keep]

/-- Trimming a text brings its first character that is not blank to the front. -/
theorem head?_trim (text : Text) : (trim text).head? = text.find? fun c => !isBlank c := by
  induction text with
  | nil => rfl
  | cons c text ih =>
    cases hc : isBlank c with
    | true =>
      have : trim (c :: text) = trim text := by simp [trim, trimStart, hc]
      rw [this, ih]
      simp [hc]
    | false =>
      have : trim (c :: text) = trimEnd (c :: text) := by simp [trim, trimStart, hc]
      rw [this, head?_trimEnd hc]
      simp [hc]

theorem trim_cons {c : Char} (hc : isBlank c = true) (text : Text) :
    trim (c :: text) = trim text := by
  simp [trim, trimStart, hc]

/-- The text begins and ends with a character that is not blank. -/
structure Solid (text : Text) : Prop where
  first : ∃ c rest, text = c :: rest ∧ isBlank c = false
  last : ∃ rest c, text = rest ++ [c] ∧ isBlank c = false

theorem Solid.trim_eq {text : Text} (h : Solid text) : trim text = text := by
  obtain ⟨⟨c, rest, hf, hc⟩, ⟨front, d, hl, hd⟩⟩ := h
  have start : trimStart text = text := by simp [trimStart, hf, hc]
  rw [trim, start, trimEnd, hl]
  simp [hd]

/-- Trimming leaves nothing or a solid text. -/
theorem solid_trim {text : Text} (hne : trim text ≠ []) : Solid (trim text) := by
  constructor
  · obtain ⟨c, rest, hc⟩ := List.exists_cons_of_ne_nil hne
    have first := head?_trim text
    rw [hc, List.head?_cons] at first
    exact ⟨c, rest, hc, by simpa using List.find?_some first.symm⟩
  · have last := List.head?_dropWhile_not isBlank (trimStart text).reverse
    have keep : ((trimStart text).reverse.dropWhile isBlank).head? =
        some ((trim text).getLast hne) := by
      rw [← List.getLast?_reverse]
      exact List.getLast?_eq_some_getLast hne
    refine ⟨(trim text).dropLast, (trim text).getLast hne,
      (List.dropLast_concat_getLast hne).symm, ?_⟩
    simpa [keep] using last

/-- Texts that trimming leaves alone are empty or solid. -/
theorem Solid.of_trim_eq {text : Text} (h : trim text = text) (hne : text ≠ []) : Solid text :=
  h ▸ solid_trim (h.symm ▸ hne)

theorem trim_trim (text : Text) : trim (trim text) = trim text := by
  by_cases hne : trim text = []
  · rw [hne, trim_nil]
  · exact (solid_trim hne).trim_eq

theorem Solid.of_forall {text : Text} (hne : text ≠ []) (h : ∀ c ∈ text, isBlank c = false) :
    Solid text := by
  constructor
  · obtain ⟨c, rest, rfl⟩ := List.exists_cons_of_ne_nil hne
    exact ⟨c, rest, rfl, h c List.mem_cons_self⟩
  · refine ⟨text.dropLast, text.getLast hne, (List.dropLast_concat_getLast hne).symm, ?_⟩
    exact h _ (List.getLast_mem hne)

theorem Solid.append {left right : Text} (hl : Solid left) (hr : Solid right) (middle : Text) :
    Solid (left ++ middle ++ right) := by
  obtain ⟨c, rest, rfl, hc⟩ := hl.first
  obtain ⟨front, d, rfl, hd⟩ := hr.last
  exact ⟨⟨c, rest ++ middle ++ (front ++ [d]), by simp, hc⟩,
    ⟨c :: rest ++ middle ++ front, d, by simp, hd⟩⟩

theorem Solid.join {sep : Text} {pieces : List Text} (hne : pieces ≠ [])
    (h : ∀ piece ∈ pieces, Solid piece) : Solid (Text.join sep pieces) := by
  induction pieces with
  | nil => contradiction
  | cons piece pieces ih =>
    have hpiece := h piece List.mem_cons_self
    cases pieces with
    | nil => exact hpiece
    | cons next pieces =>
      exact hpiece.append (ih (by simp) fun p hp => h p (List.mem_cons_of_mem _ hp)) sep

end Trim

end VoxelTemplate.Text
