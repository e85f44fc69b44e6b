import Headroom.Text.Rows

/-!
# Words are read back

Whoever writes words with blanks between them gets the same words back, whatever blanks
are chosen and whatever blanks stand around the words.  And whoever writes a line between
two line breaks gets the row of its words back, between the rows of what comes before and
after it.
-/

namespace Headroom

section Runs

variable {α : Type} {separates : α → Bool} {word gap : List α}

/-- Separators at the start do not matter. -/
theorem runs_append_of_separators
    (separators : ∀ item ∈ gap, separates item = true)
    (rest : List α) :
    runs separates (gap ++ rest) = runs separates rest := by
  induction gap with
  | nil => rfl
  | cons item others inductionHypothesis =>
      obtain ⟨first, later⟩ := List.forall_mem_cons.mp separators
      rw [List.cons_append, runs, runsFrom_separator first, closeRun_nil, List.nil_append,
        inductionHypothesis later]

/-- Items that do not separate continue the run that is begun. -/
theorem runsFrom_append_of_items
    (items : ∀ item ∈ word, separates item = false)
    (begun rest : List α) :
    runsFrom separates begun (word ++ rest) =
      runsFrom separates (word.reverse ++ begun) rest := by
  induction word generalizing begun with
  | nil => rfl
  | cons item others inductionHypothesis =>
      obtain ⟨first, later⟩ := List.forall_mem_cons.mp items
      rw [List.cons_append, runsFrom_item first, inductionHypothesis later]
      simp

/-- Items that do not separate are one run. -/
theorem runs_of_items
    (nonempty : word ≠ [])
    (items : ∀ item ∈ word, separates item = false) :
    runs separates word = [word] := by
  have whole := runsFrom_append_of_items items [] []
  rw [List.append_nil, List.append_nil, runsFrom_nil] at whole
  rw [runs, whole]
  cases reversed : word.reverse with
  | nil => exact (nonempty (List.reverse_eq_nil_iff.mp reversed)).elim
  | cons last earlier => rw [closeRun_cons, ← reversed, List.reverse_reverse]

/-- A run and the separators behind it are followed by the other runs. -/
theorem runs_append_gap_append
    (nonempty : word ≠ [])
    (items : ∀ item ∈ word, separates item = false)
    (divided : gap ≠ [])
    (separators : ∀ item ∈ gap, separates item = true)
    (rest : List α) :
    runs separates (word ++ gap ++ rest) = word :: runs separates rest := by
  cases gap with
  | nil => exact (divided rfl).elim
  | cons item others =>
      obtain ⟨first, later⟩ := List.forall_mem_cons.mp separators
      have cut := runsFrom_append_separator first [] word (others ++ rest)
      rw [List.append_assoc, List.cons_append]
      calc
        runs separates (word ++ item :: (others ++ rest))
          = runs separates word ++ runs separates (others ++ rest) := cut
        _ = word :: runs separates rest := by
          rw [runs_of_items nonempty items, runs_append_of_separators later]
          rfl

/-- Runs are not empty. -/
theorem ne_nil_of_mem_runsFrom
    {begun items run : List α}
    (present : run ∈ runsFrom separates begun items) :
    run ≠ [] := by
  have closed_ne {begun : List α} (present : run ∈ closeRun begun) : run ≠ [] := by
    cases begun with
    | nil => cases present
    | cons last earlier =>
        rw [closeRun_cons, List.mem_singleton] at present
        simp [present]
  induction items generalizing begun with
  | nil => exact closed_ne present
  | cons first rest inductionHypothesis =>
      cases firstSeparates : separates first with
      | true =>
          rw [runsFrom_separator firstSeparates, List.mem_append] at present
          exact present.elim closed_ne inductionHypothesis
      | false =>
          rw [runsFrom_item firstSeparates] at present
          exact inductionHypothesis present

/-- Runs hold no separators. -/
theorem plain_of_mem_runsFrom
    {begun items run : List α}
    (plain : ∀ item ∈ begun, separates item = false)
    (present : run ∈ runsFrom separates begun items) :
    ∀ item ∈ run, separates item = false := by
  have closed_plain {begun : List α} (plain : ∀ item ∈ begun, separates item = false)
      (present : run ∈ closeRun begun) : ∀ item ∈ run, separates item = false := by
    cases begun with
    | nil => cases present
    | cons last earlier =>
        rw [closeRun_cons, List.mem_singleton] at present
        intro item within
        rw [present, List.mem_reverse] at within
        exact plain item within
  induction items generalizing begun with
  | nil => exact closed_plain plain present
  | cons first rest inductionHypothesis =>
      cases firstSeparates : separates first with
      | true =>
          rw [runsFrom_separator firstSeparates, List.mem_append] at present
          exact present.elim (closed_plain plain) (inductionHypothesis nofun)
      | false =>
          rw [runsFrom_item firstSeparates] at present
          exact inductionHypothesis (List.forall_mem_cons.mpr ⟨firstSeparates, plain⟩) present

/-- Separators at the end do not matter. -/
theorem runs_append_separators
    (separators : ∀ item ∈ gap, separates item = true)
    (items : List α) :
    runs separates (items ++ gap) = runs separates items := by
  cases gap with
  | nil => rw [List.append_nil]
  | cons first others =>
      obtain ⟨firstSeparates, later⟩ := List.forall_mem_cons.mp separators
      have nothing := runs_append_of_separators later []
      rw [List.append_nil] at nothing
      rw [runs, runsFrom_append_separator firstSeparates, nothing, runs_nil, List.append_nil]
      rfl

end Runs

/-- A word: characters that are not blank, one at least. -/
structure IsWord (word : List Char) : Prop where
  ne_nil : word ≠ []
  plain : ∀ char ∈ word, isBlank char = false

instance (word : List Char) : Decidable (IsWord word) :=
  decidable_of_iff (word ≠ [] ∧ word.all (!isBlank ·) = true)
    ⟨fun ⟨ne_nil, plain⟩ => ⟨ne_nil, by simpa using plain⟩,
      fun ⟨ne_nil, plain⟩ => ⟨ne_nil, by simpa using plain⟩⟩

/-- Blanks that do not end a line, if any at all. -/
structure IsPadding (padding : List Char) : Prop where
  blank : ∀ char ∈ padding, isBlank char = true
  within : ∀ char ∈ padding, isLineEnd char = false

instance (padding : List Char) : Decidable (IsPadding padding) :=
  decidable_of_iff (padding.all isBlank = true ∧ padding.all (!isLineEnd ·) = true)
    ⟨fun ⟨blank, within⟩ => ⟨by simpa using blank, by simpa using within⟩,
      fun ⟨blank, within⟩ => ⟨by simpa using blank, by simpa using within⟩⟩

/-- Blanks that do not end a line, one at least. -/
structure IsGap (gap : List Char) : Prop extends IsPadding gap where
  ne_nil : gap ≠ []

instance (gap : List Char) : Decidable (IsGap gap) :=
  decidable_of_iff (IsPadding gap ∧ gap ≠ [])
    ⟨fun ⟨isPadding, ne_nil⟩ => ⟨isPadding, ne_nil⟩, fun isGap => ⟨isGap.toIsPadding, isGap.ne_nil⟩⟩

/-- What ends a line: one character that does, or a carriage return and a line feed together. -/
inductive IsLineBreak : List Char → Prop
  | single
      {char : Char}
      (endsLine : isLineEnd char = true) :
      IsLineBreak [char]
  | pair : IsLineBreak ['\r', '\n']

/-- Words, each with what follows it up to the next one. -/
def spread (fields : List (List Char × List Char)) : List Char :=
  fields.flatMap fun field => field.1 ++ field.2

section Words

variable {word padding line : List Char} {fields : List (List Char × List Char)}

theorem IsWord.within (proper : IsWord word) : ∀ char ∈ word, isLineEnd char = false := by
  intro char present
  refine Bool.eq_false_iff.mpr fun endsLine => ?_
  have plain := proper.plain char present
  rw [isBlank_of_isLineEnd endsLine] at plain
  cases plain

/-- What is cut out of a text as a word is one. -/
theorem isWord_of_mem_textWords (present : word ∈ textWords line) : IsWord word := by
  have begun : ∀ char ∈ ([] : List Char), isBlank char = false := nofun
  exact ⟨ne_nil_of_mem_runsFrom present, plain_of_mem_runsFrom begun present⟩

/-- The rows of a text consist of words. -/
theorem isWord_of_mem_textRows
    {text : List Char}
    {row : List (List Char)}
    (listed : row ∈ textRows text)
    (present : word ∈ row) :
    IsWord word := by
  rw [textRows, List.mem_filter, List.mem_map] at listed
  obtain ⟨⟨line, -, rfl⟩, -⟩ := listed
  exact isWord_of_mem_textWords present

theorem textWords_append_of_isPadding
    (isPadding : IsPadding padding)
    (rest : List Char) :
    textWords (padding ++ rest) = textWords rest :=
  runs_append_of_separators isPadding.blank rest

/-- A last word may have blanks behind it. -/
theorem textWords_word_append
    (proper : IsWord word)
    (isPadding : IsPadding padding) :
    textWords (word ++ padding) = [word] := by
  by_cases none : padding = []
  · rw [none, List.append_nil]
    exact runs_of_items proper.ne_nil proper.plain
  · have cut := runs_append_gap_append proper.ne_nil proper.plain none isPadding.blank []
    rwa [List.append_nil] at cut

/-- Words with gaps behind them are read back. -/
theorem textWords_spread_append
    (proper : ∀ field ∈ fields, IsWord field.1 ∧ IsGap field.2)
    (rest : List Char) :
    textWords (spread fields ++ rest) = fields.map (·.1) ++ textWords rest := by
  induction fields with
  | nil => rfl
  | cons field others inductionHypothesis =>
      obtain ⟨⟨isWord, isGap⟩, later⟩ := List.forall_mem_cons.mp proper
      have whole : spread (field :: others) ++ rest =
          field.1 ++ field.2 ++ (spread others ++ rest) := by
        simp [spread]
      have cut := runs_append_gap_append isWord.ne_nil isWord.plain isGap.ne_nil isGap.blank
        (spread others ++ rest)
      have rest_eq := inductionHypothesis later
      unfold textWords at rest_eq ⊢
      rw [whole, cut, rest_eq]
      rfl

/-- A line with words on it is one row. -/
theorem textRows_of_line
    (within : ∀ char ∈ line, isLineEnd char = false)
    (written : textWords line ≠ []) :
    textRows line = [textWords line] := by
  have nonempty : line ≠ [] := by
    rintro rfl
    exact written rfl
  rw [textRows, textLines, runs_of_items nonempty within]
  simp [written]

/-- What stands before a line break and what stands after it are read apart. -/
theorem textRows_append_lineBreak
    {lineBreak : List Char}
    (breaks : IsLineBreak lineBreak)
    (before after : List Char) :
    textRows (before ++ lineBreak ++ after) = textRows before ++ textRows after := by
  rw [List.append_assoc]
  cases breaks with
  | single endsLine => exact textRows_append_lineEnd endsLine before after
  | pair =>
      have return_eq : textRows (before ++ '\r' :: '\n' :: after) =
          textRows before ++ textRows ('\n' :: after) :=
        textRows_append_lineEnd rfl before ('\n' :: after)
      have feed_eq : textRows ('\n' :: after) = textRows after :=
        textRows_append_lineEnd rfl [] after
      rw [List.cons_append, List.cons_append, List.nil_append, return_eq, feed_eq]

end Words
end Headroom
