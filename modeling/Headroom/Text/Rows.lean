import Headroom.Text.Blank

/-!
# Rows of words

A report printed as a table is read as its rows: the lines that hold at least
one word, each as the list of its words.  Lines and words are both the maximal
runs of a text between separators, so one function, `runs`, cuts them.

The main lemmas say how `runs` meets a separator: what stands before it and
what stands after it are cut independently of each other.
-/

namespace Headroom

section Runs

variable {α : Type}

/-- The run collected so far, kept in reverse, as a list of at most one run. -/
def closeRun : List α → List (List α)
  | [] => []
  | item :: earlier => [(item :: earlier).reverse]

/-- The runs of a list whose first run continues a run already begun. -/
def runsFrom
    (separates : α → Bool)
    (begun : List α) :
    List α → List (List α)
  | [] => closeRun begun
  | item :: rest =>
    if separates item then
      closeRun begun ++ runsFrom separates [] rest
    else
      runsFrom separates (item :: begun) rest

/-- The maximal non-empty runs of items that do not separate. -/
def runs
    (separates : α → Bool)
    (items : List α) :
    List (List α) :=
  runsFrom separates [] items

@[simp] theorem closeRun_nil : closeRun ([] : List α) = [] := rfl

@[simp] theorem closeRun_cons (item : α) (earlier : List α) :
    closeRun (item :: earlier) = [(item :: earlier).reverse] := rfl

@[simp] theorem runsFrom_nil (separates : α → Bool) (begun : List α) :
    runsFrom separates begun [] = closeRun begun := rfl

theorem runsFrom_separator
    {separates : α → Bool}
    {item : α}
    (isSeparator : separates item = true)
    (begun rest : List α) :
    runsFrom separates begun (item :: rest) =
      closeRun begun ++ runs separates rest := by
  simp [runsFrom, runs, isSeparator]

theorem runsFrom_item
    {separates : α → Bool}
    {item : α}
    (isItem : separates item = false)
    (begun rest : List α) :
    runsFrom separates begun (item :: rest) =
      runsFrom separates (item :: begun) rest := by
  simp [runsFrom, isItem]

@[simp] theorem runs_nil (separates : α → Bool) :
    runs separates ([] : List α) = [] := rfl

/-- A separator cuts a list into two that have nothing to do with each other. -/
theorem runsFrom_append_separator
    {separates : α → Bool}
    {item : α}
    (isSeparator : separates item = true)
    (begun before after : List α) :
    runsFrom separates begun (before ++ item :: after) =
      runsFrom separates begun before ++ runs separates after := by
  induction before generalizing begun with
  | nil => simp [runsFrom_separator isSeparator]
  | cons first rest inductionHypothesis =>
    cases firstSeparates : separates first with
    | true =>
      simp [runsFrom, firstSeparates, inductionHypothesis]
    | false =>
      simp [runsFrom, firstSeparates, inductionHypothesis]

end Runs

/-- The non-empty lines of a text. -/
def textLines (text : List Char) : List (List Char) :=
  runs isLineEnd text

/-- The words of a text. -/
def textWords (text : List Char) : List (List Char) :=
  runs isBlank text

/-- The rows of a text: the words of each line that has any. -/
def textRows (text : List Char) : List (List (List Char)) :=
  ((textLines text).map textWords).filter fun row => !row.isEmpty

theorem textRows_append_lineEnd
    {lineEnd : Char}
    (endsLine : isLineEnd lineEnd = true)
    (before after : List Char) :
    textRows (before ++ lineEnd :: after) = textRows before ++ textRows after := by
  simp [textRows, textLines, runs, runsFrom_append_separator endsLine]

end Headroom
