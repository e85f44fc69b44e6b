import Headroom.Proofs.Text.Rows

/-!
# What a text is made of

A text is made of words with blanks between them, in one way only, and the words that it is
made of are those that are cut out of it.

The rows of a text hold the same words in the same order.  Characters that end a line are
blank, so no line cuts a word in two, and cutting each line into words gives no other words
than cutting the text at once.
-/

namespace Headroom

section Runs

variable {α : Type} {separates coarse fine : α → Bool} {before after : List α}

/-- What begins with a separator is cut apart from what stands before it. -/
theorem runs_append_of_head?
    (begins : ∀ item ∈ after.head?, separates item = true)
    (before : List α) :
    runs separates (before ++ after) = runs separates before ++ runs separates after := by
  cases after with
  | nil => simp
  | cons item others =>
      have isSeparator : separates item = true := begins item rfl
      have behind : runs separates (item :: others) = runs separates others := by
        rw [runs, runsFrom_separator isSeparator, closeRun_nil, List.nil_append]
      rw [behind]
      exact runsFrom_append_separator isSeparator [] before others

/-- What ends with a separator is cut apart from what stands behind it. -/
theorem runs_append_of_getLast?
    (ends : ∀ item ∈ before.getLast?, separates item = true)
    (after : List α) :
    runs separates (before ++ after) = runs separates before ++ runs separates after := by
  cases last : before.getLast? with
  | none =>
      obtain rfl := List.getLast?_eq_none_iff.mp last
      simp
  | some item =>
      obtain ⟨earlier, rfl⟩ := List.getLast?_eq_some_iff.mp last
      have isSeparator : separates item = true := ends item last
      have onlyEarlier : runs separates (earlier ++ [item]) = runs separates earlier :=
        runs_append_separators (by simpa using isSeparator) earlier
      rw [onlyEarlier, List.append_assoc, List.singleton_append]
      exact runsFrom_append_separator isSeparator [] earlier after

theorem flatMap_runs_closeRun (begun : List α) :
    (closeRun begun).flatMap (runs fine) = runs fine begun.reverse := by
  cases begun <;> simp

/-- The run that is begun has still to be cut, together with the items that come. -/
theorem flatMap_runs_runsFrom
    (contained : ∀ item, coarse item = true → fine item = true)
    (begun items : List α) :
    (runsFrom coarse begun items).flatMap (runs fine) = runs fine (begun.reverse ++ items) := by
  induction items generalizing begun with
  | nil => rw [runsFrom_nil, flatMap_runs_closeRun, List.append_nil]
  | cons item rest inductionHypothesis =>
      cases isSeparator : coarse item with
      | true =>
          have later : (runs coarse rest).flatMap (runs fine) = runs fine rest :=
            inductionHypothesis []
          rw [runsFrom_separator isSeparator, List.flatMap_append, flatMap_runs_closeRun, later]
          exact (runsFrom_append_separator (contained item isSeparator) [] _ rest).symm
      | false =>
          rw [runsFrom_item isSeparator, inductionHypothesis, List.reverse_cons,
            List.append_assoc, List.singleton_append]

/-- Where every separator of a first kind is one of a second kind too, cutting at the first kind
and then each run at the second is cutting at the second at once. -/
theorem flatMap_runs_runs
    (contained : ∀ item, coarse item = true → fine item = true)
    (items : List α) :
    (runs coarse items).flatMap (runs fine) = runs fine items :=
  flatMap_runs_runsFrom contained [] items

/-- A list begins with items that do not separate, up to its first separator. -/
theorem exists_items_append (separates : α → Bool) (items : List α) :
    ∃ run rest, items = run ++ rest ∧ (∀ item ∈ run, separates item = false) ∧
      ∀ item ∈ rest.head?, separates item = true := by
  induction items with
  | nil => exact ⟨[], [], rfl, nofun, nofun⟩
  | cons item others inductionHypothesis =>
      cases itemSeparates : separates item with
      | true => exact ⟨[], item :: others, rfl, nofun, by simpa using itemSeparates⟩
      | false =>
          obtain ⟨run, rest, rfl, plain, begins⟩ := inductionHypothesis
          exact ⟨item :: run, rest, rfl, List.forall_mem_cons.mpr ⟨itemSeparates, plain⟩, begins⟩

/-- A list ends with items that do not separate, from its last separator on. -/
theorem exists_append_items (separates : α → Bool) (items : List α) :
    ∃ rest run, items = rest ++ run ∧ (∀ item ∈ rest.getLast?, separates item = true) ∧
      ∀ item ∈ run, separates item = false := by
  obtain ⟨run, rest, reversed, plain, begins⟩ := exists_items_append separates items.reverse
  refine ⟨rest.reverse, run.reverse, ?_, ?_, ?_⟩
  · rw [← List.reverse_append, ← reversed, List.reverse_reverse]
  · rwa [List.getLast?_reverse]
  · simpa using plain

end Runs

/-- How a text is made of words: blanks, then a word up to the next blank, and so on up to the
blanks at its end. -/
inductive IsMadeOf : List Char → List (List Char) → Prop
  | blanks
      {gap : List Char}
      (blank : ∀ char ∈ gap, isBlank char = true) :
      IsMadeOf gap []
  | word
      {gap word rest : List Char}
      {words : List (List Char)}
      (blank : ∀ char ∈ gap, isBlank char = true)
      (proper : IsWord word)
      (begins : ∀ char ∈ rest.head?, isBlank char = true)
      (others : IsMadeOf rest words) :
      IsMadeOf (gap ++ word ++ rest) (word :: words)

section Words

variable {text gap word line before after rest : List Char} {words : List (List Char)}

/-- A word does not begin with a blank. -/
theorem IsWord.not_blank_head (proper : IsWord word) (rest : List Char) :
    ¬∀ char ∈ (word ++ rest).head?, isBlank char = true := by
  intro blank
  obtain ⟨char, others, rfl⟩ := List.exists_cons_of_ne_nil proper.ne_nil
  have plain := proper.plain char (List.mem_cons_self ..)
  rw [blank char rfl] at plain
  cases plain

theorem textWords_of_blank (blank : ∀ char ∈ gap, isBlank char = true) : textWords gap = [] := by
  have nothing := runs_append_separators blank []
  rwa [List.nil_append, runs_nil] at nothing

/-- A word between blanks is one of the words. -/
theorem textWords_append_word_append
    (ends : ∀ char ∈ before.getLast?, isBlank char = true)
    (proper : IsWord word)
    (begins : ∀ char ∈ rest.head?, isBlank char = true) :
    textWords (before ++ word ++ rest) = textWords before ++ word :: textWords rest := by
  unfold textWords
  rw [runs_append_of_head? begins, runs_append_of_getLast? ends,
    runs_of_items proper.ne_nil proper.plain, List.append_assoc, List.singleton_append]

/-- A word with nothing but blanks before it is the first of the words. -/
theorem textWords_gap_word_append
    (blank : ∀ char ∈ gap, isBlank char = true)
    (proper : IsWord word)
    (begins : ∀ char ∈ rest.head?, isBlank char = true) :
    textWords (gap ++ word ++ rest) = word :: textWords rest := by
  have ends (char : Char) (last : char ∈ gap.getLast?) : isBlank char = true :=
    blank char (List.mem_of_getLast? last)
  rw [textWords_append_word_append ends proper begins, textWords_of_blank blank, List.nil_append]

/-- There is one way to make a text of words. -/
theorem IsMadeOf.eq_textWords (made : IsMadeOf text words) : words = textWords text := by
  induction made with
  | blanks blank => exact (textWords_of_blank blank).symm
  | word blank proper begins others inductionHypothesis =>
      rw [textWords_gap_word_append blank proper begins, inductionHypothesis]

/-- Every text is made of words. -/
theorem exists_isMadeOf (text : List Char) : ∃ words, IsMadeOf text words := by
  -- What is left behind a first word may be any shorter text, so the length is what decreases.
  induction size : text.length using Nat.strongRecOn generalizing text with
  | ind _ inductionHypothesis =>
      obtain ⟨gap, written, rfl, blank, starts⟩ := exists_items_append (!isBlank ·) text
      obtain ⟨word, rest, rfl, plain, begins⟩ := exists_items_append isBlank written
      simp only [Bool.not_eq_false'] at blank
      cases word with
      | nil =>
          cases rest with
          | nil => exact ⟨[], by simpa using IsMadeOf.blanks blank⟩
          | cons char others =>
              have plainChar := starts char rfl
              rw [begins char rfl] at plainChar
              cases plainChar
      | cons char others =>
          have shorter : rest.length < (gap ++ (char :: others ++ rest)).length := by
            simp only [List.length_append, List.length_cons]
            omega
          obtain ⟨words, made⟩ := inductionHypothesis _ (size ▸ shorter) rest rfl
          refine ⟨(char :: others) :: words, ?_⟩
          rw [← List.append_assoc]
          exact .word blank ⟨List.cons_ne_nil _ _, plain⟩ begins made

/-- A text is made of its words and of no others. -/
theorem isMadeOf_iff : IsMadeOf text words ↔ words = textWords text := by
  refine ⟨IsMadeOf.eq_textWords, ?_⟩
  rintro rfl
  obtain ⟨words, made⟩ := exists_isMadeOf text
  rwa [← made.eq_textWords]

/-- The words of all rows are the words of the text. -/
theorem flatten_textRows (text : List Char) : (textRows text).flatten = textWords text := by
  have contained (char : Char) (endsLine : isLineEnd char = true) : isBlank char = true :=
    isBlank_of_isLineEnd endsLine
  rw [textRows, List.flatten_filter_not_isEmpty, ← List.flatMap_def]
  exact flatMap_runs_runs contained text

theorem ne_nil_of_mem_textRows {row : List (List Char)} (listed : row ∈ textRows text) :
    row ≠ [] := by
  rw [textRows, List.mem_filter] at listed
  simpa using listed.2

theorem textRows_append_of_head?
    (begins : ∀ char ∈ after.head?, isLineEnd char = true)
    (before : List Char) :
    textRows (before ++ after) = textRows before ++ textRows after := by
  unfold textRows textLines
  rw [runs_append_of_head? begins, List.map_append, List.filter_append]

theorem textRows_append_of_getLast?
    (ends : ∀ char ∈ before.getLast?, isLineEnd char = true)
    (after : List Char) :
    textRows (before ++ after) = textRows before ++ textRows after := by
  unfold textRows textLines
  rw [runs_append_of_getLast? ends, List.map_append, List.filter_append]

/-- A whole line with words on it is a row between those of the lines before and after it. -/
theorem textRows_append_line_append
    (ends : ∀ char ∈ before.getLast?, isLineEnd char = true)
    (within : ∀ char ∈ line, isLineEnd char = false)
    (written : textWords line ≠ [])
    (begins : ∀ char ∈ after.head?, isLineEnd char = true) :
    textRows (before ++ line ++ after) =
      textRows before ++ textWords line :: textRows after := by
  rw [textRows_append_of_head? begins, textRows_append_of_getLast? ends,
    textRows_of_line within written, List.append_assoc, List.singleton_append]

end Words

end Headroom
