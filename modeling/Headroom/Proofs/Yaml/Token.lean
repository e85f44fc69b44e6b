import Headroom.Proofs.Yaml.Attempt
import Headroom.Yaml.Token.Stream

/-!
# What keeps tokens from being found

Tokens are found at places in a text, each of which stands before an end of it.  Whoever
fails to find the next one has met an obstacle: the text is malformed, or it holds at that
place an escape that names no code point, or a version number that is too long to be read.

So a fault of the tokens that is not that of a malformed text can be pointed out in the
text.
-/

namespace Headroom
namespace Yaml

/-- What keeps the tokens of a text from being found. -/
inductive Obstacle (text : List Char) : Fault → Prop
  | malformed : Obstacle text .malformed
  /-- An escape names a number that is not that of a code point. -/
  | escape
      {letter : Char}
      {count code : Nat}
      {digits : List Char}
      {fault : Fault}
      (written : '\\' :: letter :: digits <:+ text)
      (introduces : Quoted.escapeDigits? letter = some count)
      (numbered : Quoted.hexNumber? count digits = some code)
      (refused : Quoted.codePoint code = .error fault) :
      Obstacle text fault
  /-- A number of a version has more digits than are read. -/
  | version
      {digits rest : List Char}
      (written : digits ++ rest <:+ text)
      (numeral : ∀ char ∈ digits, isAsciiDigit char = true)
      (long : Numeral.maximumDigits < digits.length) :
      Obstacle text .unreadableNumber

namespace Cursor

/-- A cursor stands in a text: what is still to be read is an end of the text. -/
def StandsIn
    (text : List Char)
    (cursor : Cursor) : Prop :=
  cursor.rest <:+ text

variable {text : List Char} {cursor : Cursor}

theorem StandsIn.advance (stands : cursor.StandsIn text) : cursor.advance.StandsIn text := by
  unfold StandsIn Cursor.advance at *
  split
  · exact stands
  · rename_i char rest rest_eq
    rw [rest_eq] at stands
    split <;> exact (List.suffix_cons char rest).trans stands

theorem StandsIn.advanceBy
    (stands : cursor.StandsIn text)
    (count : Nat) :
    (cursor.advanceBy count).StandsIn text := by
  induction count generalizing cursor with
  | zero => exact stands
  | succ count inductionHypothesis => exact inductionHypothesis stands.advance

theorem StandsIn.skip
    (stands : cursor.StandsIn text)
    (test : Char → Bool) :
    (cursor.skip test).StandsIn text :=
  stands.advanceBy _

theorem StandsIn.of_lineBreak?
    {found : Char × Cursor}
    (stands : cursor.StandsIn text)
    (breaks : cursor.lineBreak? = some found) :
    found.2.StandsIn text := by
  unfold lineBreak? at breaks
  split at breaks
  · cases breaks
    exact stands.advanceBy 2
  · split at breaks
    · cases breaks
      exact stands.advance
    · split at breaks
      · cases breaks
        exact stands.advance
      · cases breaks
  · cases breaks

theorem StandsIn.afterLineBreak (stands : cursor.StandsIn text) :
    cursor.afterLineBreak.StandsIn text := by
  unfold Cursor.afterLineBreak
  cases breaks : cursor.lineBreak? with
  | none => exact stands
  | some found => exact stands.of_lineBreak? breaks

end Cursor

/-- Reading goes on in the text, unless there is an obstacle. -/
abbrev ReadsOn
    {α : Type}
    (text : List Char)
    (attempt : Except Fault (α × Cursor)) : Prop :=
  Meets (fun found => found.2.StandsIn text) (Obstacle text) attempt

variable {text : List Char} {cursor : Cursor}

namespace Quoted

theorem breaks_readsOn
    (stands : cursor.StandsIn text)
    (fuel : Nat) :
    ReadsOn text (breaks fuel cursor) := by
  induction fuel generalizing cursor with
  | zero => exact .malformed
  | succ fuel inductionHypothesis =>
      unfold breaks
      split
      · exact .malformed
      · have skipped := stands.skip fun char => char == ' ' || char == '\t'
        dsimp only
        split
        · exact skipped
        · rename_i lineEnd after breaks
          exact (inductionHypothesis (skipped.of_lineBreak? breaks)).bind fun _ later => later

theorem solid_readsOn
    (stands : cursor.StandsIn text)
    (double : Bool)
    (fuel : Nat) :
    ReadsOn text (solid double fuel cursor) := by
  induction fuel generalizing cursor with
  | zero => exact .malformed
  | succ fuel inductionHypothesis =>
      have passed : (cursor.span isOrdinary).2.StandsIn text := stands.skip isOrdinary
      have more {cursor : Cursor} (stands : cursor.StandsIn text) (next found : Text) :
          ReadsOn text (do
            let later ← solid double fuel cursor
            return (found ++ next ++ later.1, later.2)) :=
        (inductionHypothesis stands).bind fun _ later => later
      unfold solid
      dsimp only
      split
      · exact more (passed.advanceBy 2) _ _
      · exact more passed.advance _ _
      · exact more passed.advance _ _
      · exact more passed.advance _ _
      · rename_i letter digits rest_eq
        split
        · exact more (passed.advanceBy 2) _ _
        · rename_i count _ introduces
          split
          · exact .malformed
          · rename_i code numbered
            cases named : codePoint code with
            | error fault =>
                have written : '\\' :: letter :: digits <:+ text := by
                  rw [← rest_eq]
                  exact passed
                exact .escape written introduces numbered named
            | ok point => exact more (passed.advanceBy _) _ _
        · split
          · exact .malformed
          · rename_i lineEnd after breaks
            have broken := passed.advance.of_lineBreak? breaks
            exact (breaks_readsOn broken _).bind fun _ later => more later _ _
      · exact .malformed
      · exact passed

theorem gap_readsOn (stands : cursor.StandsIn text) : ReadsOn text (gap cursor) := by
  have passed := stands.skip fun char => char == ' ' || char == '\t'
  unfold gap
  dsimp only
  split
  · exact .malformed
  · exact passed
  · rename_i lineEnd after breaks _
    exact (breaks_readsOn (passed.of_lineBreak? breaks) _).bind fun _ later => later

theorem upToQuote_readsOn
    (stands : cursor.StandsIn text)
    (quote : Char)
    (fuel : Nat) :
    ReadsOn text (upToQuote quote fuel cursor) := by
  induction fuel generalizing cursor with
  | zero => exact .malformed
  | succ fuel inductionHypothesis =>
      unfold upToQuote
      refine (solid_readsOn stands _ _).bind fun found foundIn => ?_
      dsimp only
      split
      · exact foundIn.advance
      · refine (gap_readsOn foundIn).bind fun between betweenIn => ?_
        exact (inductionHypothesis betweenIn).bind fun _ later => later

theorem scan_readsOn (stands : cursor.StandsIn text) : ReadsOn text (scan cursor) := by
  unfold scan
  split
  · exact .malformed
  · exact upToQuote_readsOn stands.advance _ _

end Quoted

namespace Block

theorem ignoredLine_standsIn (stands : cursor.StandsIn text) :
    Meets (Cursor.StandsIn text) (Obstacle text) (ignoredLine cursor) := by
  have ending {cursor : Cursor} (stands : cursor.StandsIn text) :
      Meets (Cursor.StandsIn text) (Obstacle text)
        (if cursor.head?.all isBreak = true then .ok cursor.afterLineBreak
          else .error .malformed) := by
    split
    · exact stands.afterLineBreak
    · exact .malformed
  have skipped := stands.skip (· == ' ')
  unfold ignoredLine
  refine ending ?_
  split
  · exact skipped.skip _
  · exact skipped

theorem header_readsOn (stands : cursor.StandsIn text) :
    Meets (fun found => found.2.2.StandsIn text) (Obstacle text) (header cursor) := by
  unfold header
  -- The cursor is moved first, and then looked at; each case of the former ends alike.
  split
  rename_i chomping increment after moved
  have afterIn : after.StandsIn text := by
    revert moved
    split
    · dsimp only
      split
      · rintro ⟨⟩
        exact stands.advance.advance
      · rintro ⟨⟩
        exact stands.advance
    · split
      · dsimp only
        split
        · rintro ⟨⟩
          exact stands.advance.advance
        · rintro ⟨⟩
          exact stands.advance
      · rintro ⟨⟩
        exact stands
  dsimp only
  split
  · exact .malformed
  split
  · exact afterIn
  · exact .malformed

theorem breaks_standsIn
    (stands : cursor.StandsIn text)
    (indent fuel : Nat) :
    (breaks indent fuel cursor).2.StandsIn text := by
  induction fuel generalizing cursor with
  | zero => exact stands
  | succ fuel inductionHypothesis =>
      have indented : (skipIndent indent cursor).StandsIn text := stands.advanceBy _
      unfold breaks
      dsimp only
      split
      · exact indented
      · rename_i lineEnd after breaks
        exact inductionHypothesis (indented.of_lineBreak? breaks)

theorem indentation_standsIn
    (stands : cursor.StandsIn text)
    (deepest fuel : Nat) :
    (indentation deepest fuel cursor).2.2.StandsIn text := by
  induction fuel generalizing cursor deepest with
  | zero => exact stands
  | succ fuel inductionHypothesis =>
      have skipped := stands.skip (· == ' ')
      unfold indentation
      dsimp only
      split
      · exact skipped
      · rename_i lineEnd after breaks
        exact inductionHypothesis (skipped.of_lineBreak? breaks) _

theorem lines_standsIn
    (stands : cursor.StandsIn text)
    (fold : Bool)
    (chomping : Chomping)
    (indent fuel : Nat)
    (before : List Char) :
    (lines fold chomping indent fuel before cursor).2.StandsIn text := by
  induction fuel generalizing cursor before with
  | zero => exact stands
  | succ fuel inductionHypothesis =>
      have line : (cursor.span (!isBreak ·)).2.StandsIn text := stands.skip _
      have broken := breaks_standsIn line.afterLineBreak indent
        ((cursor.span (!isBreak ·)).2.afterLineBreak.rest.length + 1)
      unfold lines
      dsimp only
      split
      · exact inductionHypothesis broken _
      · exact broken

theorem scan_readsOn
    (stands : cursor.StandsIn text)
    (fold : Bool)
    (parent : Int) :
    ReadsOn text (scan fold parent cursor) := by
  unfold scan
  refine (header_readsOn stands.advance).bind fun found foundIn => ?_
  obtain ⟨chomping, increment, after⟩ := found
  refine (ignoredLine_standsIn foundIn).bind fun first firstIn => ?_
  cases increment with
  | none =>
      have textIn := indentation_standsIn firstIn 0 (first.rest.length + 1)
      dsimp only
      split
      · exact lines_standsIn textIn _ _ _ _ _
      · exact textIn
  | some increment =>
      have textIn := breaks_standsIn firstIn ((max 1 (parent + 1)).toNat + increment - 1)
        (first.rest.length + 1)
      dsimp only
      split
      · exact lines_standsIn textIn _ _ _ _ _
      · exact textIn

end Block

namespace Plain

theorem breaks_standsIn
    (stands : cursor.StandsIn text)
    (fuel : Nat) :
    (breaks fuel cursor).2.StandsIn text := by
  induction fuel generalizing cursor with
  | zero => exact stands
  | succ fuel inductionHypothesis =>
      have skipped := stands.skip (· == ' ')
      unfold breaks
      dsimp only
      split
      · exact skipped
      · rename_i lineEnd after breaks
        have broken := skipped.of_lineBreak? breaks
        split
        · exact broken
        · exact inductionHypothesis broken

theorem gap_standsIn (stands : cursor.StandsIn text) : (gap cursor).cursor.StandsIn text := by
  have skipped : (cursor.span (· == ' ')).2.StandsIn text := stands.skip (· == ' ')
  unfold gap
  dsimp only
  split
  · exact skipped
  · rename_i lineEnd after breaks
    have broken := skipped.of_lineBreak? breaks
    have further := breaks_standsIn broken (after.rest.length + 1)
    split
    · exact broken
    · split
      · rename_i found
        rwa [found] at further
      · rename_i found
        rwa [found] at further

theorem scanFrom_standsIn
    (stands : cursor.StandsIn text)
    (inFlow : Bool)
    (indent : Int)
    (fuel : Nat) :
    (scanFrom inFlow indent fuel cursor).cursor.StandsIn text := by
  induction fuel generalizing cursor with
  | zero => exact stands
  | succ fuel inductionHypothesis =>
      have between := gap_standsIn (stands.advanceBy (run inFlow cursor.rest).length)
      unfold scanFrom
      dsimp only
      split
      · exact stands
      · split
        · exact between
        · split
          · exact between
          · exact inductionHypothesis between

end Plain

section Tags

theorem percentBytes_readsOn
    (stands : cursor.StandsIn text)
    (fuel : Nat) :
    ReadsOn text (percentBytes fuel cursor) := by
  induction fuel generalizing cursor with
  | zero => exact stands
  | succ fuel inductionHypothesis =>
      unfold percentBytes
      split
      · split
        · exact .malformed
        · exact (inductionHypothesis (stands.advanceBy 3)).bind fun _ later => later
      · exact stands

theorem tagChars_readsOn
    (stands : cursor.StandsIn text)
    (fuel : Nat) :
    ReadsOn text (tagChars fuel cursor) := by
  induction fuel generalizing cursor with
  | zero => exact stands
  | succ fuel inductionHypothesis =>
      have passed : (cursor.span isTagChar).2.StandsIn text := stands.skip isTagChar
      unfold tagChars
      dsimp only
      split
      · refine (percentBytes_readsOn passed _).bind fun found foundIn => ?_
        split
        · exact .malformed
        · exact (inductionHypothesis foundIn).bind fun _ later => later
      · exact passed

theorem tagText_readsOn (stands : cursor.StandsIn text) : ReadsOn text (tagText cursor) := by
  unfold tagText
  dsimp only
  split
  · exact .malformed
  · exact (tagChars_readsOn stands _).bind fun _ later => later

theorem tagHandle_readsOn (stands : cursor.StandsIn text) : ReadsOn text (tagHandle cursor) := by
  unfold tagHandle
  split
  · exact stands.advance
  · dsimp only
    split
    · exact (stands.advanceBy _).advance
    · exact .malformed
  · exact .malformed

theorem scanTag_readsOn (stands : cursor.StandsIn text) : ReadsOn text (scanTag cursor) := by
  have ending {cursor : Cursor} (stands : cursor.StandsIn text) (token : Token) :
      ReadsOn text (if cursor.head?.all isSpaceOrBreak = true then pure (token, cursor)
        else throw .malformed) := by
    split
    · exact stands
    · exact .malformed
  unfold scanTag
  dsimp only
  split
  · refine (tagText_readsOn (stands.advanceBy 2)).bind fun suffix suffixIn => ?_
    split
    · exact .malformed
    · exact ending suffixIn.advance _
  split
  · exact ending stands.advance _
  split
  · refine (tagHandle_readsOn stands).bind fun handle handleIn => ?_
    exact (tagText_readsOn handleIn).bind fun suffix suffixIn => ending suffixIn _
  · exact (tagText_readsOn stands.advance).bind fun suffix suffixIn => ending suffixIn _

theorem scanAnchor_readsOn (stands : cursor.StandsIn text) : ReadsOn text (scanAnchor cursor) := by
  unfold scanAnchor
  dsimp only
  split
  · exact stands.advance.skip _
  · exact .malformed

end Tags

section Directives

theorem versionNumber_readsOn (stands : cursor.StandsIn text) :
    ReadsOn text (versionNumber cursor) := by
  unfold versionNumber
  dsimp only
  split
  · exact .malformed
  split
  · rename_i long
    have written : cursor.rest.takeWhile isAsciiDigit ++ cursor.rest.dropWhile isAsciiDigit <:+
        text := by
      rw [List.takeWhile_append_dropWhile]
      exact stands
    exact .version written (List.all_eq_true.mp List.all_takeWhile) long
  · exact stands.skip _

theorem versionDirective_readsOn (stands : cursor.StandsIn text) :
    ReadsOn text (versionDirective cursor) := by
  unfold versionDirective
  refine (versionNumber_readsOn (stands.skip _)).bind fun major majorIn => ?_
  dsimp only
  split
  · exact .malformed
  · refine (versionNumber_readsOn majorIn.advance).bind fun minor minorIn => ?_
    split
    · exact minorIn
    · exact .malformed

theorem handleDirective_readsOn (stands : cursor.StandsIn text) :
    ReadsOn text (handleDirective cursor) := by
  unfold handleDirective
  refine (tagHandle_readsOn (stands.skip _)).bind fun handle handleIn => ?_
  dsimp only
  split
  · exact .malformed
  · refine (tagText_readsOn (handleIn.skip _)).bind fun start startIn => ?_
    split
    · exact startIn
    · exact .malformed

theorem scanDirective_readsOn (stands : cursor.StandsIn text) :
    ReadsOn text (scanDirective cursor) := by
  have ending {cursor : Cursor} (stands : cursor.StandsIn text) (directive : Directive) :
      ReadsOn text (do return (directive, ← Block.ignoredLine cursor)) :=
    (Block.ignoredLine_standsIn stands).bind fun _ later => later
  have named := stands.advance.skip isNameChar
  unfold scanDirective
  dsimp only
  split
  · exact .malformed
  · split
    · exact (versionDirective_readsOn named).bind fun found foundIn => ending foundIn _
    split
    · exact (handleDirective_readsOn named).bind fun found foundIn => ending foundIn _
    · exact ending (named.skip _) _

end Directives

end Yaml
end Headroom
