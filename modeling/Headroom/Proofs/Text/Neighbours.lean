import Headroom.Proofs.Text.Words
import Mathlib.Data.List.Basic

/-!
# Words that follow each other

The rows of a text hold its words in order, and what they add to the words is where lines
end: two words that follow each other stand in one row exactly if no line break is among the
blanks between them.

Words are told apart by their numbers, for a text may hold the same word many times.
-/

namespace Headroom

section Counting

variable {α : Type} {rows : List (List α)} {number : Nat}

/-- The index of the row that holds the item of a number, where the items of all rows are numbered
one row after the other. -/
def rowOf : List (List α) → Nat → Nat
  | [], _ => 0
  | row :: rows, number =>
    if number < row.length then 0 else rowOf rows (number - row.length) + 1

theorem rowOf_lt (counted : number < rows.flatten.length) : rowOf rows number < rows.length := by
  induction rows generalizing number with
  | nil => simp at counted
  | cons row rest inductionHypothesis =>
      rw [List.flatten_cons, List.length_append] at counted
      rw [rowOf, List.length_cons]
      split
      · omega
      · have counted : number - row.length < rest.flatten.length := by omega
        have later := inductionHypothesis counted
        omega

/-- Rows that come later do not move an item. -/
theorem rowOf_append_of_lt
    (counted : number < rows.flatten.length)
    (others : List (List α)) :
    rowOf (rows ++ others) number = rowOf rows number := by
  induction rows generalizing number with
  | nil => simp at counted
  | cons row rest inductionHypothesis =>
      rw [List.flatten_cons, List.length_append] at counted
      rw [List.cons_append, rowOf, rowOf]
      split
      · rfl
      · rw [inductionHypothesis (by omega)]

/-- Rows that come earlier move an item by their number. -/
theorem rowOf_append_add (rows others : List (List α)) (number : Nat) :
    rowOf (rows ++ others) (rows.flatten.length + number) =
      rows.length + rowOf others number := by
  induction rows with
  | nil => simp
  | cons row rest inductionHypothesis =>
      have beyond : ¬(row :: rest).flatten.length + number < row.length := by
        rw [List.flatten_cons, List.length_append]
        omega
      have left : (row :: rest).flatten.length + number - row.length =
          rest.flatten.length + number := by
        rw [List.flatten_cons, List.length_append]
        omega
      rw [List.cons_append, rowOf, if_neg beyond, left, inductionHypothesis, List.length_cons]
      omega

/-- An item stands in its row, whatever rows come before and after. -/
theorem rowOf_append_cons
    {row : List α}
    (within : number < row.length)
    (rows others : List (List α)) :
    rowOf (rows ++ row :: others) (rows.flatten.length + number) = rows.length := by
  rw [rowOf_append_add, rowOf, if_pos within, Nat.add_zero]

end Counting

/-- A line break is among some characters. -/
def HoldsLineBreak (gap : List Char) : Prop :=
  ∃ lineBreak, IsLineBreak lineBreak ∧ lineBreak <:+: gap

/-- Two words of a text that follow each other. -/
structure Neighbours (text : List Char) where
  /-- What stands before the first word. -/
  before : List Char
  /-- The word that comes first. -/
  first : List Char
  /-- What stands between the words. -/
  gap : List Char
  /-- The word that comes next. -/
  second : List Char
  /-- What stands behind the second word. -/
  after : List Char
  text_eq : text = before ++ first ++ gap ++ second ++ after
  /-- The first word does not begin earlier. -/
  ends : ∀ char ∈ before.getLast?, isBlank char = true
  first_isWord : IsWord first
  gap_ne_nil : gap ≠ []
  gap_blank : ∀ char ∈ gap, isBlank char = true
  second_isWord : IsWord second
  /-- The second word does not go on. -/
  begins : ∀ char ∈ after.head?, isBlank char = true

/-- The number of words before two neighbours, which is the number of the first of them. -/
def Neighbours.number {text : List Char} (place : Neighbours text) : Nat :=
  (textWords place.before).length

section Neighbours

variable {text gap word between second after rest : List Char} {words : List (List Char)}

theorem holdsLineBreak_iff : HoldsLineBreak gap ↔ ∃ char ∈ gap, isLineEnd char = true := by
  constructor
  · rintro ⟨lineBreak, breaks, within⟩
    cases breaks with
    | single endsLine => exact ⟨_, within.subset (List.mem_singleton_self _), endsLine⟩
    | pair => exact ⟨'\r', within.subset (by simp), rfl⟩
  · rintro ⟨char, present, endsLine⟩
    obtain ⟨lead, trail, rfl⟩ := List.append_of_mem present
    exact ⟨[char], .single endsLine, lead, trail, by simp⟩

instance (gap : List Char) : Decidable (HoldsLineBreak gap) :=
  decidable_of_iff (gap.any isLineEnd = true) (by simp [holdsLineBreak_iff])

/-- What stands between neighbours begins with a blank. -/
theorem Neighbours.gap_begins (place : Neighbours text) (rest : List Char) :
    ∀ char ∈ (place.gap ++ rest).head?, isBlank char = true := by
  obtain ⟨blank, others, gap_eq⟩ := List.exists_cons_of_ne_nil place.gap_ne_nil
  rw [gap_eq]
  rintro char ⟨rfl⟩
  exact place.gap_blank _ (by simp [gap_eq])

/-- Neighbours are words of the text, behind the words before them. -/
theorem Neighbours.textWords_eq (place : Neighbours text) :
    textWords text =
      textWords place.before ++ place.first :: place.second :: textWords place.after := by
  have begins := place.gap_begins (place.second ++ place.after)
  rw [← List.append_assoc] at begins
  have parted : text =
      place.before ++ place.first ++ (place.gap ++ place.second ++ place.after) :=
    place.text_eq.trans (by simp)
  rw [← textWords_gap_word_append place.gap_blank place.second_isWord place.begins,
    ← textWords_append_word_append place.ends place.first_isWord begins, ← parted]

theorem Neighbours.getElem?_number (place : Neighbours text) :
    (textWords text)[place.number]? = some place.first := by
  rw [place.textWords_eq, number, List.getElem?_append_right (Nat.le_refl _), Nat.sub_self]
  rfl

theorem Neighbours.getElem?_number_add_one (place : Neighbours text) :
    (textWords text)[place.number + 1]? = some place.second := by
  rw [place.textWords_eq, number, List.getElem?_append_right (Nat.le_add_right _ _),
    Nat.add_sub_cancel_left]
  rfl

/-- The first two words of a text. -/
def Neighbours.atStart
    (blank : ∀ char ∈ gap, isBlank char = true)
    (proper : IsWord word)
    (begins : ∀ char ∈ (between ++ second ++ after).head?, isBlank char = true)
    (blankBetween : ∀ char ∈ between, isBlank char = true)
    (secondProper : IsWord second)
    (beginsAfter : ∀ char ∈ after.head?, isBlank char = true) :
    Neighbours (gap ++ word ++ (between ++ second ++ after)) where
  before := gap
  first := word
  gap := between
  second := second
  after := after
  text_eq := by simp
  ends := fun char last => blank char (List.mem_of_getLast? last)
  first_isWord := proper
  gap_ne_nil := by
    rintro rfl
    exact secondProper.not_blank_head after begins
  gap_blank := blankBetween
  second_isWord := secondProper
  begins := beginsAfter

/-- Neighbours in the rest of a text, behind its first word. -/
def Neighbours.behind
    (place : Neighbours rest)
    (gap word : List Char)
    (begins : ∀ char ∈ rest.head?, isBlank char = true) :
    Neighbours (gap ++ word ++ rest) where
  before := gap ++ word ++ place.before
  first := place.first
  gap := place.gap
  second := place.second
  after := place.after
  text_eq := by
    simp only [List.append_assoc, place.text_eq]
  ends := by
    have parted : place.before ≠ [] := by
      intro none
      rw [place.text_eq, none, List.nil_append, List.append_assoc, List.append_assoc] at begins
      exact place.first_isWord.not_blank_head _ begins
    rw [List.getLast?_append_of_ne_nil _ parted]
    exact place.ends
  first_isWord := place.first_isWord
  gap_ne_nil := place.gap_ne_nil
  gap_blank := place.gap_blank
  second_isWord := place.second_isWord
  begins := place.begins

theorem Neighbours.number_behind
    (place : Neighbours rest)
    (blank : ∀ char ∈ gap, isBlank char = true)
    (proper : IsWord word)
    (begins : ∀ char ∈ rest.head?, isBlank char = true) :
    (place.behind gap word begins).number = place.number + 1 := by
  have beginsBefore : ∀ char ∈ place.before.head?, isBlank char = true := by
    intro char present
    apply begins
    rw [place.text_eq]
    simp [List.head?_append, Option.mem_def.mp present]
  rw [number, behind, textWords_gap_word_append blank proper beginsBefore]
  rfl

/-- Each word but the last one has a neighbour. -/
theorem IsMadeOf.exists_neighbours
    {number : Nat}
    (made : IsMadeOf text words)
    (counted : number + 1 < words.length) :
    ∃ place : Neighbours text, place.number = number := by
  -- Either the two words are the first ones, or they are neighbours in the rest of the text.
  induction made generalizing number with
  | blanks => simp at counted
  | @word gap word rest words blank proper begins others inductionHypothesis =>
      cases number with
      | zero =>
          cases others with
          | blanks => simp at counted
          | @word between second after _ blankBetween secondProper beginsAfter =>
              refine ⟨.atStart blank proper begins blankBetween secondProper beginsAfter, ?_⟩
              rw [Neighbours.number, Neighbours.atStart, textWords_of_blank blank]
              rfl
      | succ number =>
          obtain ⟨place, rfl⟩ := inductionHypothesis (Nat.lt_of_succ_lt_succ counted)
          exact ⟨place.behind gap word begins, place.number_behind blank proper begins⟩

/-- A line break between neighbours puts them into two rows. -/
theorem Neighbours.rowOf_ne
    (place : Neighbours text)
    (broken : HoldsLineBreak place.gap) :
    rowOf (textRows text) place.number ≠ rowOf (textRows text) (place.number + 1) := by
  obtain ⟨lineBreak, breaks, lead, trail, gap_eq⟩ := broken
  have leadBlank : ∀ char ∈ lead, isBlank char = true := by
    intro char present
    exact place.gap_blank char (by simp [← gap_eq, present])
  -- The lines up to the break hold all words up to the first of the two, and no other.
  let upper := place.before ++ place.first ++ lead
  let lower := trail ++ place.second ++ place.after
  have rows : textRows text = textRows upper ++ textRows lower := by
    rw [← textRows_append_lineBreak breaks]
    refine congrArg textRows (place.text_eq.trans ?_)
    simp [upper, lower, ← gap_eq]
  have counted : (textRows upper).flatten.length = place.number + 1 := by
    have begins (char : Char) (head : char ∈ lead.head?) : isBlank char = true :=
      leadBlank char (List.mem_of_mem_head? head)
    rw [flatten_textRows, textWords_append_word_append place.ends place.first_isWord begins,
      textWords_of_blank leadBlank, List.length_append, number]
    rfl
  have above : place.number < (textRows upper).flatten.length := by omega
  have firstRow := rowOf_lt above
  have secondRow := rowOf_append_add (textRows upper) (textRows lower) 0
  rw [Nat.add_zero, counted] at secondRow
  rw [rows, rowOf_append_of_lt above, secondRow]
  omega

/-- The neighbours in a part of the text around them. -/
def Neighbours.part
    (place : Neighbours text)
    {earlier start rest later : List Char}
    (before_eq : place.before = earlier ++ start)
    (after_eq : place.after = rest ++ later) :
    Neighbours (start ++ place.first ++ place.gap ++ place.second ++ rest) where
  before := start
  first := place.first
  gap := place.gap
  second := place.second
  after := rest
  text_eq := rfl
  ends := by
    intro char last
    apply place.ends
    simp [before_eq, List.getLast?_append, Option.mem_def.mp last]
  first_isWord := place.first_isWord
  gap_ne_nil := place.gap_ne_nil
  gap_blank := place.gap_blank
  second_isWord := place.second_isWord
  begins := by
    intro char head
    apply place.begins
    simp [after_eq, List.head?_append, Option.mem_def.mp head]

/-- Neighbours with no line break between them stand in one row. -/
theorem Neighbours.rowOf_eq
    (place : Neighbours text)
    (unbroken : ¬HoldsLineBreak place.gap) :
    rowOf (textRows text) place.number = rowOf (textRows text) (place.number + 1) := by
  -- The line around the two words goes from the last line end before them to the next one.
  obtain ⟨earlier, start, before_eq, ends, startWithin⟩ :=
    exists_append_items isLineEnd place.before
  obtain ⟨rest, later, after_eq, restWithin, begins⟩ :=
    exists_items_append isLineEnd place.after
  let line := start ++ place.first ++ place.gap ++ place.second ++ rest
  have words : textWords line =
      textWords start ++ place.first :: place.second :: textWords rest :=
    (place.part before_eq after_eq).textWords_eq
  have within : ∀ char ∈ line, isLineEnd char = false := by
    have gapWithin : ∀ char ∈ place.gap, isLineEnd char = false := by
      simpa [holdsLineBreak_iff] using unbroken
    intro char present
    simp only [line, List.mem_append] at present
    rcases present with (((inStart | inFirst) | inGap) | inSecond) | inRest
    · exact startWithin char inStart
    · exact place.first_isWord.within char inFirst
    · exact gapWithin char inGap
    · exact place.second_isWord.within char inSecond
    · exact restWithin char inRest
  have rows : textRows text = textRows earlier ++ textWords line :: textRows later := by
    rw [← textRows_append_line_append ends within (by simp [words]) begins]
    refine congrArg textRows (place.text_eq.trans ?_)
    simp [line, before_eq, after_eq]
  have number_eq :
      place.number = (textRows earlier).flatten.length + (textWords start).length := by
    have endsBlank (char : Char) (last : char ∈ earlier.getLast?) : isBlank char = true :=
      isBlank_of_isLineEnd (ends char last)
    have parted : textWords place.before = textWords earlier ++ textWords start := by
      rw [before_eq]
      exact runs_append_of_getLast? endsBlank start
    rw [number, parted, List.length_append, flatten_textRows]
  have length_eq : (textWords line).length =
      (textWords start).length + ((textWords rest).length + 2) := by
    rw [words, List.length_append]
    rfl
  rw [rows, number_eq, Nat.add_assoc, rowOf_append_cons (by omega), rowOf_append_cons (by omega)]

/-- The rows of a text are not empty, and together they hold its words in order, which are the only
words that the text is made of.  Every two words that follow each other are neighbours at some place
of the text; and neighbours at any place are two such words, which stand in one row exactly if no
line break is between them. -/
theorem textRows_cut_words_at_lineBreaks (text : List Char) :
    (∀ row ∈ textRows text, row ≠ []) ∧
      (textRows text).flatten = textWords text ∧
      (∀ words, IsMadeOf text words ↔ words = textWords text) ∧
      (∀ number, number + 1 < (textWords text).length →
        ∃ place : Neighbours text, place.number = number) ∧
      ∀ place : Neighbours text,
        (textWords text)[place.number]? = some place.first ∧
          (textWords text)[place.number + 1]? = some place.second ∧
          (rowOf (textRows text) place.number = rowOf (textRows text) (place.number + 1) ↔
            ¬HoldsLineBreak place.gap) := by
  refine ⟨fun row => ne_nil_of_mem_textRows, flatten_textRows text, fun words => isMadeOf_iff,
    fun number counted => ?_, fun place => ?_⟩
  · exact (isMadeOf_iff.mpr rfl).exists_neighbours counted
  · refine ⟨place.getElem?_number, place.getElem?_number_add_one, ?_, place.rowOf_eq⟩
    intro together broken
    exact place.rowOf_ne broken together

end Neighbours

/-- Three words, a carriage return and a line feed between the first two of them and a blank that
ends no line between the last two. -/
def threeWords : List Char := "a\r\n b\u00A0c".toList

/-- The first two of the three words. -/
def brokenPair : Neighbours threeWords where
  before := []
  first := ['a']
  gap := "\r\n ".toList
  second := ['b']
  after := "\u00A0c".toList
  text_eq := by decide
  ends := nofun
  first_isWord := by decide
  gap_ne_nil := by decide
  gap_blank := List.all_eq_true.mp (by decide)
  second_isWord := by decide
  begins := by rintro char ⟨rfl⟩; rfl

/-- The last two of the three words. -/
def unbrokenPair : Neighbours threeWords where
  before := "a\r\n ".toList
  first := ['b']
  gap := "\u00A0".toList
  second := ['c']
  after := []
  text_eq := by decide
  ends := by rintro char ⟨rfl⟩; rfl
  first_isWord := by decide
  gap_ne_nil := by decide
  gap_blank := List.all_eq_true.mp (by decide)
  second_isWord := by decide
  begins := nofun

theorem textRows_cut_words_at_lineBreaks_threeWords :
    ([['a']] ∈ textRows threeWords ∧ [['a']] ≠ ([] : List (List Char))) ∧
      (1 + 1 < (textWords threeWords).length ∧
        ∃ place : Neighbours threeWords, place.number = 1) ∧
      (HoldsLineBreak brokenPair.gap ∧
        rowOf (textRows threeWords) brokenPair.number ≠
          rowOf (textRows threeWords) (brokenPair.number + 1)) ∧
      (¬HoldsLineBreak unbrokenPair.gap ∧
        rowOf (textRows threeWords) unbrokenPair.number =
          rowOf (textRows threeWords) (unbrokenPair.number + 1)) := by
  obtain ⟨nonempty, -, -, placed, cut⟩ := textRows_cut_words_at_lineBreaks threeWords
  have listed : [['a']] ∈ textRows threeWords := by decide
  have counted : 1 + 1 < (textWords threeWords).length := by decide
  have broken : HoldsLineBreak brokenPair.gap := by decide
  have unbroken : ¬HoldsLineBreak unbrokenPair.gap := by decide
  obtain ⟨-, -, brokenRows⟩ := cut brokenPair
  obtain ⟨-, -, unbrokenRows⟩ := cut unbrokenPair
  refine ⟨⟨listed, nonempty _ listed⟩, ⟨counted, placed 1 counted⟩, ⟨broken, ?_⟩,
    ⟨unbroken, unbrokenRows.mpr unbroken⟩⟩
  exact fun together => brokenRows.mp together broken

end Headroom
