import Headroom.Yaml.Cursor
import Headroom.Yaml.Fault
import Headroom.Yaml.Token.Quoted

/-!
# Block scalars

A block scalar keeps its lines as they stand, below an indentation that is
either given or found from its first line.  The folded style joins lines that
begin with text.

An indicator says whether the line ends after the last line are dropped, kept,
or, with no indicator, reduced to one.
-/

namespace Headroom
namespace Yaml
namespace Block

/-- What becomes of the line ends after the last line. -/
inductive Chomping
  | strip
  | clip
  | keep
deriving DecidableEq, Repr

/-- The chomping that a sign asks for. -/
def chomping? : Option Char → Option Chomping
  | some '+' => some .keep
  | some '-' => some .strip
  | _ => none

/-- The digit at a place. -/
def increment? (cursor : Cursor) : Option Nat :=
  cursor.head?.bind asciiDigit?

/-- The chomping and the indentation that stand in the first line of a block scalar. -/
def header (cursor : Cursor) : Except Fault (Chomping × Option Nat × Cursor) := do
  let (chomping, increment, cursor) :=
    match chomping? cursor.head? with
    | some chomping =>
      let cursor := cursor.advance
      match increment? cursor with
      | some digit => (chomping, some digit, cursor.advance)
      | none => (chomping, none, cursor)
    | none =>
      match increment? cursor with
      | some digit =>
        let cursor := cursor.advance
        match chomping? cursor.head? with
        | some chomping => (chomping, some digit, cursor.advance)
        | none => (.clip, some digit, cursor)
      | none => (.clip, none, cursor)
  if increment = some 0 then throw .malformed
  if cursor.head?.all isSpaceOrBreak then return (chomping, increment, cursor)
  throw .malformed

/-- The place after the rest of a line that holds nothing but spaces and a comment. -/
def ignoredLine (cursor : Cursor) : Except Fault Cursor :=
  let cursor := cursor.skip (· == ' ')
  let cursor := if cursor.head? = some '#' then cursor.skip (!isBreak ·) else cursor
  if cursor.head?.all isBreak then .ok cursor.afterLineBreak else .error .malformed

/-- The place after spaces, but not beyond a column. -/
def skipIndent
    (indent : Nat)
    (cursor : Cursor) : Cursor :=
  cursor.advanceBy ((cursor.rest.takeWhile (· == ' ')).length.min (indent - cursor.column))

/-- The line ends of lines that hold nothing but spaces up to an indentation. -/
def breaks
    (indent : Nat) :
    Nat → Cursor → List Char × Cursor
  | 0, cursor => ([], cursor)
  | fuel + 1, cursor =>
    let cursor := skipIndent indent cursor
    match cursor.lineBreak? with
    | none => ([], cursor)
    | some (lineEnd, cursor) =>
      let (others, cursor) := breaks indent fuel cursor
      (lineEnd :: others, cursor)

/-- The line ends before the first line, and the greatest column reached in doing so. -/
def indentation
    (deepest : Nat) :
    Nat → Cursor → List Char × Nat × Cursor
  | 0, cursor => ([], deepest, cursor)
  | fuel + 1, cursor =>
    let cursor := cursor.skip (· == ' ')
    let deepest := max deepest cursor.column
    match cursor.lineBreak? with
    | none => ([], deepest, cursor)
    | some (lineEnd, cursor) =>
      let (others, deepest, cursor) := indentation deepest fuel cursor
      (lineEnd :: others, deepest, cursor)

/-- Whether a line at a place begins with text. -/
def beginsWithText (cursor : Cursor) : Bool :=
  cursor.head?.all fun char => char != ' ' && char != '\t'

/-- The lines of a block scalar, given the line ends before the first of them. -/
def lines
    (fold : Bool)
    (chomping : Chomping)
    (indent : Nat) :
    Nat → List Char → Cursor → List Char × Cursor
  | 0, _, cursor => ([], cursor)
  | fuel + 1, before, cursor =>
    let withText := beginsWithText cursor
    let (line, cursor) := cursor.span (!isBreak ·)
    let lineEnd := (cursor.lineBreak?.map fun found => [found.1]).getD []
    let cursor := cursor.afterLineBreak
    let (after, cursor) := breaks indent (cursor.rest.length + 1) cursor
    if cursor.column = indent ∧ cursor.rest ≠ [] then
      let joint :=
        if fold && lineEnd == ['\n'] && withText && beginsWithText cursor then
          if after.isEmpty then [' '] else []
        else lineEnd
      let (others, cursor) := lines fold chomping indent fuel after cursor
      (before ++ line ++ joint ++ others, cursor)
    else
      let ending :=
        match chomping with
        | .strip => []
        | .clip => lineEnd
        | .keep => lineEnd ++ after
      (before ++ line ++ ending, cursor)

/-- The block scalar at a place, which is its indicator, below an indentation. -/
def scan
    (fold : Bool)
    (parent : Int)
    (cursor : Cursor) :
    Except Fault (List Char × Cursor) := do
  let (chomping, increment, cursor) ← header cursor.advance
  let cursor ← ignoredLine cursor
  let least := (max 1 (parent + 1)).toNat
  let fuel := cursor.rest.length + 1
  let (before, indent, cursor) :=
    match increment with
    | none =>
      let (before, deepest, cursor) := indentation 0 fuel cursor
      (before, max least deepest, cursor)
    | some increment =>
      let indent := least + increment - 1
      let (before, cursor) := breaks indent fuel cursor
      (before, indent, cursor)
  if cursor.column = indent ∧ cursor.rest ≠ [] then
    return lines fold chomping indent fuel before cursor
  else
    return (if chomping = .keep then before else [], cursor)

end Block
end Yaml
end Headroom
