import Headroom.Proofs.Yaml.Token

/-!
# Faults of token streams

Each step of finding tokens either ends at a place in the text or meets an obstacle, and so
does the whole run of them.  What the steps do besides, with the tokens found, with the
indentations and with the possible keys, leaves the place where it is.
-/

namespace Headroom
namespace Yaml
namespace Scan

theorem openBlock_cursor (column position : Nat) (token : Token) (scan : Scan) :
    (scan.openBlock column position token).cursor = scan.cursor := by
  unfold openBlock
  split <;> rfl

theorem closeDeeper_cursor (column : Int) (outer : List Int) (scan : Scan) :
    (closeDeeper column outer scan).cursor = scan.cursor := by
  induction outer generalizing scan with
  | nil => rfl
  | cons indent others inductionHypothesis =>
      unfold closeDeeper
      split
      · exact inductionHypothesis _
      · rfl

theorem unwind_cursor (column : Int) (scan : Scan) :
    (scan.unwind column).cursor = scan.cursor := by
  unfold unwind
  split
  · exact closeDeeper_cursor column _ scan
  · rfl

variable {text : List Char} {scan : Scan}

/-- Finding tokens goes on in the text, unless there is an obstacle. -/
abbrev ScansOn
    (text : List Char)
    (attempt : Except Fault Scan) : Prop :=
  Meets (fun next => next.cursor.StandsIn text) (Obstacle text) attempt

theorem dropStaleKeys_scansOn (stands : scan.cursor.StandsIn text) :
    ScansOn text scan.dropStaleKeys := by
  unfold dropStaleKeys
  split
  · exact .malformed
  · exact stands

theorem refuseKey_scansOn (stands : scan.cursor.StandsIn text) :
    ScansOn text scan.refuseKey := by
  unfold refuseKey
  split
  · exact .malformed
  · exact stands

theorem offerKey_scansOn (stands : scan.cursor.StandsIn text) :
    ScansOn text scan.offerKey := by
  unfold offerKey
  split
  · exact (refuseKey_scansOn stands).bind fun _ later => later
  · exact stands

theorem skipIgnored_standsIn
    (stands : scan.cursor.StandsIn text)
    (fuel : Nat) :
    (scan.skipIgnored fuel).cursor.StandsIn text := by
  induction fuel generalizing scan with
  | zero => exact stands
  | succ fuel inductionHypothesis =>
      have skipped : (if (scan.cursor.skip (· == ' ')).head? = some '#' then
          (scan.cursor.skip (· == ' ')).skip (!isBreak ·)
          else scan.cursor.skip (· == ' ')).StandsIn text := by
        split
        · exact (stands.skip _).skip _
        · exact stands.skip _
      unfold skipIgnored
      dsimp only
      split
      · exact skipped
      · rename_i lineEnd after breaks
        exact inductionHypothesis (skipped.of_lineBreak? breaks)

theorem atDocumentLevel_scansOn (stands : scan.cursor.StandsIn text) :
    ScansOn text scan.atDocumentLevel := by
  unfold atDocumentLevel
  refine (refuseKey_scansOn ?_).bind fun _ later => later
  rw [unwind_cursor]
  exact stands

theorem endStream_scansOn (stands : scan.cursor.StandsIn text) :
    ScansOn text scan.endStream :=
  (atDocumentLevel_scansOn stands).bind fun _ later => later

theorem directive_scansOn (stands : scan.cursor.StandsIn text) :
    ScansOn text scan.directive :=
  (atDocumentLevel_scansOn stands).bind fun _ laterIn =>
    (scanDirective_readsOn laterIn).bind fun _ foundIn => foundIn

theorem documentMarker_scansOn
    (stands : scan.cursor.StandsIn text)
    (token : Token) :
    ScansOn text (scan.documentMarker token) :=
  (atDocumentLevel_scansOn stands).bind fun _ later => later.advanceBy 3

theorem openFlow_scansOn
    (stands : scan.cursor.StandsIn text)
    (token : Token) :
    ScansOn text (scan.openFlow token) :=
  (offerKey_scansOn stands).bind fun _ later => later.advance

theorem closeFlow_scansOn
    (stands : scan.cursor.StandsIn text)
    (token : Token) :
    ScansOn text (scan.closeFlow token) :=
  (refuseKey_scansOn stands).bind fun _ later => later.advance

theorem flowEntry_scansOn (stands : scan.cursor.StandsIn text) :
    ScansOn text scan.flowEntry :=
  (refuseKey_scansOn stands).bind fun _ later => later.advance

theorem openBlock_refuseKey_scansOn
    (stands : scan.cursor.StandsIn text)
    (token : Token) :
    ScansOn text (scan.openBlock scan.cursor.column scan.count token).refuseKey := by
  refine refuseKey_scansOn ?_
  rw [openBlock_cursor]
  exact stands

theorem blockEntry_scansOn (stands : scan.cursor.StandsIn text) :
    ScansOn text scan.blockEntry := by
  unfold blockEntry
  split
  · exact .malformed
  · exact (openBlock_refuseKey_scansOn stands _).bind fun _ later => later.advance

theorem explicitKey_scansOn (stands : scan.cursor.StandsIn text) :
    ScansOn text scan.explicitKey := by
  unfold explicitKey
  split
  · exact .malformed
  · exact (openBlock_refuseKey_scansOn stands _).bind fun _ later => later.advance

theorem valueIndicator_scansOn (stands : scan.cursor.StandsIn text) :
    ScansOn text scan.valueIndicator := by
  unfold valueIndicator
  dsimp only
  split
  · change (Scan.openBlock _ _ _ _).cursor.advance.StandsIn text
    rw [openBlock_cursor]
    exact stands.advance
  · split
    · exact .malformed
    · exact (openBlock_refuseKey_scansOn stands _).bind fun _ later => later.advance

theorem keyPart_scansOn
    {read : Cursor → Except Fault (Token × Cursor)}
    (reads : ∀ cursor, cursor.StandsIn text → ReadsOn text (read cursor))
    (stands : scan.cursor.StandsIn text) :
    ScansOn text (scan.keyPart read) :=
  (offerKey_scansOn stands).bind fun _ laterIn =>
    (reads _ laterIn).bind fun _ foundIn => foundIn

theorem plain_scansOn (stands : scan.cursor.StandsIn text) :
    ScansOn text scan.plain :=
  (offerKey_scansOn stands).bind fun _ laterIn => Plain.scanFrom_standsIn laterIn _ _ _

theorem blockScalar_scansOn
    (stands : scan.cursor.StandsIn text)
    (fold : Bool) :
    ScansOn text (scan.blockScalar fold) :=
  (refuseKey_scansOn stands).bind fun _ laterIn =>
    (Block.scan_readsOn laterIn _ _).bind fun _ foundIn => foundIn

/-- The tokens at a place are found, or an obstacle is met there. -/
theorem token_scansOn (stands : scan.cursor.StandsIn text) : ScansOn text scan.token := by
  have keyed (read : Cursor → Except Fault (Token × Cursor))
      (reads : ∀ cursor, cursor.StandsIn text → ReadsOn text (read cursor)) :
      ScansOn text (scan.keyPart read) :=
    keyPart_scansOn reads stands
  unfold token
  cases scan.cursor.head? with
  | none => exact endStream_scansOn stands
  | some char =>
      refine .ite (directive_scansOn stands) ?_
      refine .ite (documentMarker_scansOn stands _) (.ite (documentMarker_scansOn stands _) ?_)
      refine .ite (openFlow_scansOn stands _) (.ite (openFlow_scansOn stands _) ?_)
      refine .ite (closeFlow_scansOn stands _) (.ite (closeFlow_scansOn stands _) ?_)
      refine .ite (flowEntry_scansOn stands) (.ite (blockEntry_scansOn stands) ?_)
      refine .ite (explicitKey_scansOn stands) (.ite (valueIndicator_scansOn stands) ?_)
      refine .ite (keyed _ fun _ atName => meets_map.mpr (scanAnchor_readsOn atName)) ?_
      refine .ite (keyed _ fun _ atName => meets_map.mpr (scanAnchor_readsOn atName)) ?_
      refine .ite (keyed _ fun _ atTag => scanTag_readsOn atTag) ?_
      refine .ite (blockScalar_scansOn stands _) (.ite (blockScalar_scansOn stands _) ?_)
      refine .ite (keyed _ fun _ atQuote => meets_map.mpr (Quoted.scan_readsOn atQuote)) ?_
      exact .ite (plain_scansOn stands) .malformed

theorem next_scansOn
    (stands : scan.cursor.StandsIn text)
    (lines : Nat) :
    ScansOn text (scan.next lines) := by
  unfold next
  have begun : (if scan.cursor.index = 0 ∧ scan.cursor.head? = some '\uFEFF' then
      scan.move scan.cursor.advance else scan).cursor.StandsIn text := by
    split
    · exact stands.advance
    · exact stands
  refine (dropStaleKeys_scansOn (skipIgnored_standsIn begun lines)).bind fun later laterIn => ?_
  refine token_scansOn ?_
  rw [unwind_cursor]
  exact laterIn

end Scan

namespace TokenStream

theorem after_fault_obstacle
    {text : List Char}
    {scan : Scan}
    {fault : Fault}
    (stands : scan.cursor.StandsIn text)
    (fuel : Nat)
    (ended : (after fuel scan).fault = some fault) :
    Obstacle text fault := by
  induction fuel generalizing scan with
  | zero =>
      cases ended
      exact .malformed
  | succ fuel inductionHypothesis =>
      have onward := Scan.next_scansOn stands (fuel + 1)
      unfold after at ended
      split at ended
      · rename_i met failed
        cases ended
        exact onward.of_error failed
      · rename_i next succeeded
        split at ended
        · cases ended
        · exact inductionHypothesis (onward.of_ok succeeded) ended

/-- Only an obstacle in a text ends its tokens early. -/
theorem ofText_fault_obstacle
    {text : List Char}
    {fault : Fault}
    (ended : (ofText text).fault = some fault) :
    Obstacle text fault := by
  unfold ofText at ended
  split at ended
  · have begun : (Scan.start text).cursor.StandsIn text := List.suffix_rfl
    exact after_fault_obstacle begun _ ended
  · cases ended
    exact .malformed

end TokenStream
end Yaml
end Headroom
