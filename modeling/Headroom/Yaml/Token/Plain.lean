import Headroom.Yaml.Token.Quoted

/-!
# Plain scalars

A plain scalar has no quotes: it runs up to whatever cannot belong to it, such
as a colon before a blank, a comment, or an indicator of the flow collection
around it.

It may go on over several lines, which are joined as in quoted scalars, as long
as they are indented more than the collection around it.
-/

namespace Headroom
namespace Yaml
namespace Plain

/-- Whether a character is an indicator of flow collections. -/
def isFlowIndicator (char : Char) : Bool :=
  char == ',' || char == '[' || char == ']' || char == '\x7b' || char == '\x7d'

/-- Whether a colon is followed by what makes it the indicator of a value. -/
def endsKey
    (inFlow : Bool)
    (following : Option Char) : Bool :=
  following.all fun char => isBlankOrBreak char || (inFlow && isFlowIndicator char)

/-- The characters at the start of a text that belong to one line of a plain scalar. -/
def run (inFlow : Bool) : List Char → List Char
  | [] => []
  | char :: rest =>
    if isBlankOrBreak char || (char == ':' && endsKey inFlow rest.head?) ||
        (inFlow && (char == '?' || isFlowIndicator char)) then []
    else char :: run inFlow rest

/-- The further line ends after one line end of a plain scalar, up to a document marker. -/
def breaks : Nat → Cursor → Option (List Char) × Cursor
  | 0, cursor => (none, cursor)
  | fuel + 1, cursor =>
    let cursor := cursor.skip (· == ' ')
    match cursor.lineBreak? with
    | none => (some [], cursor)
    | some (lineEnd, cursor) =>
      if cursor.atDocumentMarker then (none, cursor)
      else
        let (others, cursor) := breaks fuel cursor
        (others.map (lineEnd :: ·), cursor)

/-- What stands between two runs of a plain scalar. -/
structure Gap where
  /-- The characters that the gap contributes; none of them ends the scalar. -/
  chars : List Char
  /-- Whether the gap reaches a new line. -/
  newLine : Bool
  /-- The place after the gap. -/
  cursor : Cursor

/-- The spaces and line ends at a place. -/
def gap (cursor : Cursor) : Gap :=
  let (spaces, cursor) := cursor.span (· == ' ')
  match cursor.lineBreak? with
  | none => { chars := spaces, newLine := false, cursor }
  | some (lineEnd, cursor) =>
    if cursor.atDocumentMarker then { chars := [], newLine := true, cursor }
    else
      match breaks (cursor.rest.length + 1) cursor with
      | (none, cursor) => { chars := [], newLine := true, cursor }
      | (some others, cursor) =>
        { chars := Quoted.folded lineEnd others, newLine := true, cursor }

/-- A plain scalar that was read. -/
structure Scanned where
  chars : List Char
  /-- Whether a new line was reached, where a key may begin. -/
  newLine : Bool
  cursor : Cursor

/-- The plain scalar at a place, its lines being indented at least to a column. -/
def scanFrom
    (inFlow : Bool)
    (indent : Int) :
    Nat → Cursor → Scanned
  | 0, cursor => { chars := [], newLine := false, cursor }
  | fuel + 1, cursor =>
    let found := run inFlow cursor.rest
    if found.isEmpty then { chars := [], newLine := false, cursor }
    else
      let between := gap (cursor.advanceBy found.length)
      if between.chars.isEmpty || between.cursor.head? == some '#' ||
          (!inFlow && (between.cursor.column : Int) < indent) then
        { chars := found, newLine := between.newLine, cursor := between.cursor }
      else
        let others := scanFrom inFlow indent fuel between.cursor
        if others.chars.isEmpty then
          { chars := found, newLine := between.newLine, cursor := between.cursor }
        else
          { others with chars := found ++ between.chars ++ others.chars }

/-- The plain scalar at a place inside a collection of given indentation. -/
def scan
    (inFlow : Bool)
    (parent : Int)
    (cursor : Cursor) : Scanned :=
  scanFrom inFlow (parent + 1) (cursor.rest.length + 1) cursor

end Plain
end Yaml
end Headroom
