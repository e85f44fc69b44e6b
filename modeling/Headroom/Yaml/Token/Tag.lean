import Headroom.Text.Utf8
import Headroom.Yaml.Token
import Headroom.Yaml.Token.Block

/-!
# Tags, anchors and directives

A tag is written out, or shortened by a handle; its characters are those of
addresses, and others may be given byte by byte after a percent sign.  Anchors
and aliases have plain names.

Directives stand before a document: one gives the version of the format, others
declare handles, and any other is ignored.
-/

namespace Headroom
namespace Yaml

/-- Whether a character may occur in a tag as it is. -/
def isTagChar (char : Char) : Bool :=
  isNameChar char || ";/?:@&=+$,_.!~*'()[]".toList.contains char

/-- The bytes given by percent signs at a place. -/
def percentBytes : Nat → Cursor → Except Fault (List UInt8 × Cursor)
  | 0, cursor => .ok ([], cursor)
  | fuel + 1, cursor =>
    match cursor.rest with
    | '%' :: digits =>
      match Quoted.hexNumber? 2 digits with
      | none => .error .malformed
      | some byte => do
        let (others, cursor) ← percentBytes fuel (cursor.advanceBy 3)
        return (UInt8.ofNat byte :: others, cursor)
    | _ => .ok ([], cursor)

/-- The characters of a tag at a place. -/
def tagChars : Nat → Cursor → Except Fault (List Char × Cursor)
  | 0, cursor => .ok ([], cursor)
  | fuel + 1, cursor => do
    let (run, cursor) := cursor.span isTagChar
    if cursor.head? = some '%' then
      let (bytes, cursor) ← percentBytes (cursor.rest.length + 1) cursor
      match Utf8.decode? bytes with
      | none => .error .malformed
      | some chars => do
        let (others, cursor) ← tagChars fuel cursor
        return (run ++ chars ++ others, cursor)
    else return (run, cursor)

/-- The characters of a tag at a place, of which there must be some. -/
def tagText (cursor : Cursor) : Except Fault (String × Cursor) := do
  let written := cursor.head?.any fun char => isTagChar char || char == '%'
  if !written then throw .malformed
  let (chars, cursor) ← tagChars (cursor.rest.length + 1) cursor
  return (String.ofList chars, cursor)

/-- The handle at a place: an exclamation mark, or a name between two. -/
def tagHandle (cursor : Cursor) : Except Fault (String × Cursor) :=
  match cursor.rest with
  | '!' :: ' ' :: _ => .ok ("!", cursor.advance)
  | '!' :: rest =>
    let name := rest.takeWhile isNameChar
    let after := cursor.advanceBy (1 + name.length)
    if after.head? = some '!' then
      .ok (String.ofList ('!' :: name ++ ['!']), after.advance)
    else .error .malformed
  | _ => .error .malformed

/-- Whether an exclamation mark occurs before the next space or line end. -/
def hasHandle (text : List Char) : Bool :=
  (text.takeWhile fun char => !isSpaceOrBreak char).contains '!'

/-- The tag at a place, which is an exclamation mark. -/
def scanTag (cursor : Cursor) : Except Fault (Token × Cursor) := do
  let following := cursor.rest.tail
  let (token, cursor) ←
    if following.head? = some '<' then do
      let (suffix, cursor) ← tagText (cursor.advanceBy 2)
      if cursor.head? ≠ some '>' then throw .malformed
      pure (Token.tag none suffix, cursor.advance)
    else if following.head?.all isBlankOrBreak then
      pure (Token.tag none "!", cursor.advance)
    else if hasHandle following then do
      let (handle, cursor) ← tagHandle cursor
      let (suffix, cursor) ← tagText cursor
      pure (Token.tag (some handle) suffix, cursor)
    else do
      let (suffix, cursor) ← tagText cursor.advance
      pure (Token.tag (some "!") suffix, cursor)
  if cursor.head?.all isSpaceOrBreak then return (token, cursor)
  throw .malformed

/-- Whether a character may follow the name of an anchor or an alias. -/
def endsAnchor (char : Char) : Bool :=
  isBlankOrBreak char || "?:,]\x7d%@`".toList.contains char

/-- The name of the anchor or alias at a place, which is its indicator. -/
def scanAnchor (cursor : Cursor) : Except Fault (String × Cursor) :=
  let (name, cursor) := cursor.advance.span isNameChar
  if !name.isEmpty && cursor.head?.all endsAnchor then .ok (String.ofList name, cursor)
  else .error .malformed

/-- The number at a place. -/
def versionNumber (cursor : Cursor) : Except Fault (Nat × Cursor) :=
  let (digits, cursor) := cursor.span isAsciiDigit
  if digits.isEmpty then .error .malformed
  else if Numeral.maximumDigits < digits.length then .error .unreadableNumber
  else .ok (naturalOfDigits digits, cursor)

/-- The version that a directive states. -/
def versionDirective (cursor : Cursor) : Except Fault (Directive × Cursor) := do
  let (major, cursor) ← versionNumber (cursor.skip (· == ' '))
  if cursor.head? ≠ some '.' then throw .malformed
  let (minor, cursor) ← versionNumber cursor.advance
  if cursor.head?.all isSpaceOrBreak then return (.version major minor, cursor)
  throw .malformed

/-- The handle that a directive declares. -/
def handleDirective (cursor : Cursor) : Except Fault (Directive × Cursor) := do
  let (handle, cursor) ← tagHandle (cursor.skip (· == ' '))
  if cursor.head? ≠ some ' ' then throw .malformed
  let (tagStart, cursor) ← tagText (cursor.skip (· == ' '))
  if cursor.head?.all isSpaceOrBreak then return (.handle handle tagStart, cursor)
  throw .malformed

/-- The directive at a place, which is a percent sign. -/
def scanDirective (cursor : Cursor) : Except Fault (Directive × Cursor) := do
  let (name, cursor) := cursor.advance.span isNameChar
  if name.isEmpty || !cursor.head?.all isSpaceOrBreak then throw .malformed
  let (directive, cursor) ←
    if name = "YAML".toList then versionDirective cursor
    else if name = "TAG".toList then handleDirective cursor
    else pure (Directive.reserved, cursor.skip (!isBreak ·))
  return (directive, ← Block.ignoredLine cursor)

end Yaml
end Headroom
