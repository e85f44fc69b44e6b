import Headroom.Yaml.Token.Plain
import Headroom.Yaml.Token.Tag

/-!
# The tokens of a text

Tokens are found one by one from left to right.  A node may turn out to be a key
only when the colon after it is met; the token that says so is then inserted
before the node, which is remembered as a possible key until its line or its
allowance of characters ends.

A text that cannot be read to its end still has the tokens that were settled
before the fault, so that whoever reads them may stop earlier for a reason of
its own.
-/

namespace Headroom
namespace Yaml

/-- A node that may turn out to be a key. -/
structure PossibleKey where
  /-- How many tokens precede the node. -/
  position : Nat
  /-- Whether the node can be nothing but a key. -/
  required : Bool
  index : Nat
  line : Nat
  column : Nat
deriving DecidableEq, Repr

/-- The state of reading tokens. -/
structure Scan where
  cursor : Cursor
  /-- The tokens found, the last one first. -/
  found : List Token
  /-- How many tokens are found. -/
  count : Nat
  /-- How many flow collections are open. -/
  flowLevel : Nat
  /-- The indentation of the innermost block collection. -/
  indent : Int
  /-- The indentations of the block collections around it. -/
  outerIndents : List Int
  /-- Whether a key may begin at the cursor. -/
  keyAllowed : Bool
  /-- The possible key of each level of flow collections. -/
  possibleKeys : List (Nat × PossibleKey)
  finished : Bool

namespace Scan

/-- The state before the first token. -/
def start (text : List Char) : Scan :=
  { cursor := .start text, found := [], count := 0, flowLevel := 0, indent := -1
    outerIndents := [], keyAllowed := true, possibleKeys := [], finished := false }

/-- The state after a token is found. -/
def push
    (token : Token)
    (scan : Scan) : Scan :=
  { scan with found := token :: scan.found, count := scan.count + 1 }

/-- The state after a token is inserted at a position. -/
def insert
    (position : Nat)
    (token : Token)
    (scan : Scan) : Scan :=
  { scan with
    found := scan.found.insertIdx (scan.count - position) token
    count := scan.count + 1 }

/-- The state at another place. -/
def move
    (cursor : Cursor)
    (scan : Scan) : Scan :=
  { scan with cursor }

/-- Whether a possible key is too far back to be one. -/
def isStale
    (scan : Scan)
    (key : PossibleKey) : Bool :=
  key.line != scan.cursor.line || key.index + 1024 < scan.cursor.index

/-- The state without the possible keys that are too far back. -/
def dropStaleKeys (scan : Scan) : Except Fault Scan :=
  if scan.possibleKeys.any fun (_, key) => scan.isStale key && key.required then
    .error .malformed
  else
    .ok { scan with possibleKeys := scan.possibleKeys.filter fun (_, key) => !scan.isStale key }

/-- The possible key of the current level. -/
def possibleKey? (scan : Scan) : Option PossibleKey :=
  (scan.possibleKeys.find? fun (level, _) => level == scan.flowLevel).map (·.2)

/-- The state without the possible key of the current level. -/
def forgetKey (scan : Scan) : Scan :=
  { scan with possibleKeys := scan.possibleKeys.filter fun (level, _) => level != scan.flowLevel }

/-- The state in which the node at the current level is no key. -/
def refuseKey (scan : Scan) : Except Fault Scan :=
  if scan.possibleKey?.any (·.required) then .error .malformed else .ok scan.forgetKey

/-- The state in which the node at the cursor may turn out to be a key. -/
def offerKey (scan : Scan) : Except Fault Scan :=
  if scan.keyAllowed then do
    let key : PossibleKey :=
      { position := scan.count
        required := scan.flowLevel = 0 ∧ scan.indent = scan.cursor.column
        index := scan.cursor.index
        line := scan.cursor.line
        column := scan.cursor.column }
    let scan ← scan.refuseKey
    return { scan with possibleKeys := (scan.flowLevel, key) :: scan.possibleKeys }
  else .ok scan

/-- The state after the block collections that are indented deeper than a column are closed. -/
def closeDeeper (column : Int) : List Int → Scan → Scan
  | [], scan => scan
  | outer :: others, scan =>
    if column < scan.indent then
      closeDeeper column others
        { scan.push .blockEnd with indent := outer, outerIndents := others }
    else scan

/-- The state after a column ends the block collections indented deeper than it. -/
def unwind
    (column : Int)
    (scan : Scan) : Scan :=
  if scan.flowLevel = 0 then closeDeeper column scan.outerIndents scan else scan

/-- The state after a block collection begins at a column, unless it is open already. -/
def openBlock
    (column position : Nat)
    (token : Token)
    (scan : Scan) : Scan :=
  if scan.flowLevel = 0 ∧ scan.indent < column then
    { scan.insert position token with
      indent := column
      outerIndents := scan.indent :: scan.outerIndents }
  else scan

/-- The state after the spaces, comments and line ends at the cursor. -/
def skipIgnored : Nat → Scan → Scan
  | 0, scan => scan
  | fuel + 1, scan =>
    let cursor := scan.cursor.skip (· == ' ')
    let cursor := if cursor.head? = some '#' then cursor.skip (!isBreak ·) else cursor
    match cursor.lineBreak? with
    | none => scan.move cursor
    | some (_, cursor) =>
      skipIgnored fuel
        { scan with cursor, keyAllowed := scan.keyAllowed || scan.flowLevel == 0 }

/-- The state after a mark of the whole document, which closes all collections. -/
def atDocumentLevel (scan : Scan) : Except Fault Scan := do
  let scan ← (scan.unwind (-1)).refuseKey
  return { scan with keyAllowed := false }

/-- The state after the end of the text. -/
def endStream (scan : Scan) : Except Fault Scan := do
  let scan ← scan.atDocumentLevel
  return { scan.push .streamEnd with possibleKeys := [], finished := true }

/-- The state after a directive. -/
def directive (scan : Scan) : Except Fault Scan := do
  let scan ← scan.atDocumentLevel
  let (directive, cursor) ← scanDirective scan.cursor
  return (scan.move cursor).push (.directive directive)

/-- The state after a line that starts or ends a document. -/
def documentMarker
    (token : Token)
    (scan : Scan) :
    Except Fault Scan := do
  let scan ← scan.atDocumentLevel
  return (scan.move (scan.cursor.advanceBy 3)).push token

/-- The state after a flow collection begins. -/
def openFlow
    (token : Token)
    (scan : Scan) :
    Except Fault Scan := do
  let scan ← scan.offerKey
  return { (scan.move scan.cursor.advance).push token with
    flowLevel := scan.flowLevel + 1
    keyAllowed := true }

/-- The state after a flow collection ends. -/
def closeFlow
    (token : Token)
    (scan : Scan) :
    Except Fault Scan := do
  let scan ← scan.refuseKey
  return { (scan.move scan.cursor.advance).push token with
    flowLevel := scan.flowLevel - 1
    keyAllowed := false }

/-- The state after a comma of a flow collection. -/
def flowEntry (scan : Scan) : Except Fault Scan := do
  let scan ← scan.refuseKey
  return { (scan.move scan.cursor.advance).push .flowEntry with keyAllowed := true }

/-- The state after the dash of an entry. -/
def blockEntry (scan : Scan) : Except Fault Scan := do
  if scan.flowLevel = 0 ∧ ¬scan.keyAllowed then throw .malformed
  let scan := scan.openBlock scan.cursor.column scan.count .blockSequenceStart
  let scan ← scan.refuseKey
  return { (scan.move scan.cursor.advance).push .blockEntry with keyAllowed := true }

/-- The state after the question mark of a key. -/
def explicitKey (scan : Scan) : Except Fault Scan := do
  if scan.flowLevel = 0 ∧ ¬scan.keyAllowed then throw .malformed
  let scan := scan.openBlock scan.cursor.column scan.count .blockMappingStart
  let scan ← scan.refuseKey
  return { (scan.move scan.cursor.advance).push .key with keyAllowed := scan.flowLevel = 0 }

/-- The state after the colon of a value. -/
def valueIndicator (scan : Scan) : Except Fault Scan := do
  let scan ←
    match scan.possibleKey? with
    | some key =>
      let scan := scan.forgetKey.insert key.position .key
      let scan := scan.openBlock key.column key.position .blockMappingStart
      pure { scan with keyAllowed := false }
    | none => do
      if scan.flowLevel = 0 ∧ ¬scan.keyAllowed then throw .malformed
      let scan := scan.openBlock scan.cursor.column scan.count .blockMappingStart
      let scan ← scan.refuseKey
      pure { scan with keyAllowed := scan.flowLevel = 0 }
  return (scan.move scan.cursor.advance).push .value

/-- The state after something that may be the beginning of a key. -/
def keyPart
    (read : Cursor → Except Fault (Token × Cursor))
    (scan : Scan) :
    Except Fault Scan := do
  let scan ← scan.offerKey
  let (token, cursor) ← read scan.cursor
  return { (scan.move cursor).push token with keyAllowed := false }

/-- The state after a plain scalar. -/
def plain (scan : Scan) : Except Fault Scan := do
  let scan ← scan.offerKey
  let scanned := Plain.scan (scan.flowLevel != 0) scan.indent scan.cursor
  return { (scan.move scanned.cursor).push (.scalar (Text.ofChars scanned.chars) true) with
    keyAllowed := scanned.newLine }

/-- The state after a block scalar. -/
def blockScalar
    (fold : Bool)
    (scan : Scan) :
    Except Fault Scan := do
  let scan ← scan.refuseKey
  let (chars, cursor) ← Block.scan fold scan.indent scan.cursor
  return { (scan.move cursor).push (.scalar (Text.ofChars chars) false) with keyAllowed := true }

/-- Whether an indicator of an entry, a key or a value stands at the cursor. -/
def isIndicator (scan : Scan) : Bool :=
  scan.cursor.rest.tail.head?.all isBlankOrBreak

/-- Whether a plain scalar begins at the cursor. -/
def beginsPlain (scan : Scan) : Bool :=
  match scan.cursor.rest with
  | [] => false
  | char :: rest =>
    !(isBlankOrBreak char || "-?:,[]\x7b\x7d#&*!|>'\"%@`".toList.contains char) ||
      (!rest.head?.all isBlankOrBreak &&
        (char == '-' || (scan.flowLevel == 0 && (char == '?' || char == ':'))))

/-- The state after the next tokens, the cursor standing on the first of them. -/
def token (scan : Scan) : Except Fault Scan :=
  let inFlow := scan.flowLevel != 0
  let atLineStart := scan.cursor.column == 0
  match scan.cursor.head? with
  | none => scan.endStream
  | some char =>
    if char = '%' ∧ atLineStart then scan.directive
    else if atLineStart && scan.cursor.atMarker '-' then scan.documentMarker .documentStart
    else if atLineStart && scan.cursor.atMarker '.' then scan.documentMarker .documentEnd
    else if char = '[' then scan.openFlow .flowSequenceStart
    else if char = '\x7b' then scan.openFlow .flowMappingStart
    else if char = ']' then scan.closeFlow .flowSequenceEnd
    else if char = '\x7d' then scan.closeFlow .flowMappingEnd
    else if char = ',' then scan.flowEntry
    else if char = '-' ∧ scan.isIndicator then scan.blockEntry
    else if char = '?' ∧ (inFlow ∨ scan.isIndicator) then scan.explicitKey
    else if char = ':' ∧ (inFlow ∨ scan.isIndicator) then scan.valueIndicator
    else if char = '*' then
      scan.keyPart fun cursor => (scanAnchor cursor).map fun (name, cursor) => (.alias name, cursor)
    else if char = '&' then
      scan.keyPart fun cursor =>
        (scanAnchor cursor).map fun (name, cursor) => (.anchor name, cursor)
    else if char = '!' then scan.keyPart scanTag
    else if char = '|' ∧ ¬inFlow then scan.blockScalar false
    else if char = '>' ∧ ¬inFlow then scan.blockScalar true
    else if char = '\'' ∨ char = '"' then
      scan.keyPart fun cursor =>
        (Quoted.scan cursor).map fun (value, cursor) => (.scalar value false, cursor)
    else if scan.beginsPlain then scan.plain
    else .error .malformed

/-- The state after the next tokens, within a number of lines that is no less than what is left. -/
def next
    (lines : Nat)
    (scan : Scan) :
    Except Fault Scan := do
  let atStart := scan.cursor.index = 0 ∧ scan.cursor.head? = some '\uFEFF'
  let scan := if atStart then scan.move scan.cursor.advance else scan
  let scan ← (scan.skipIgnored lines).dropStaleKeys
  (scan.unwind scan.cursor.column).token

/-- How many tokens are settled: those before the first possible key. -/
def settled (scan : Scan) : Nat :=
  (scan.possibleKeys.filter fun (_, key) => !scan.isStale key).foldl
    (fun count (_, key) => min count key.position) scan.count

end Scan

/-- The tokens of a text, and the fault that ends them, if one does. -/
structure TokenStream where
  tokens : List Token
  fault : Option Fault
deriving DecidableEq, Repr

namespace TokenStream

/-- The tokens from a state on, with those found before.  Each step but the last passes a
character, so the allowance of steps also bounds the lines that are left. -/
def after : Nat → Scan → TokenStream
  | 0, scan => { tokens := scan.found.reverse, fault := some .malformed }
  | fuel + 1, scan =>
    match scan.next (fuel + 1) with
    | .error fault =>
      { tokens := scan.found.reverse.take scan.settled, fault := some fault }
    | .ok next =>
      if next.finished then { tokens := next.found.reverse, fault := none }
      else after fuel next

/-- Whether a character may occur in a text. -/
def isAllowed (char : Char) : Bool :=
  let code := char.toNat
  code == 0x09 || code == 0x0A || code == 0x0D || (0x20 ≤ code && code ≤ 0x7E) ||
    code == 0x85 || (0xA0 ≤ code && code ≤ 0xD7FF) || (0xE000 ≤ code && code ≤ 0xFFFD) ||
    0x10000 ≤ code

/-- The tokens of a text. -/
def ofText (text : List Char) : TokenStream :=
  if text.all isAllowed then after (text.length + 2) (.start text)
  else { tokens := [], fault := some .malformed }

end TokenStream
end Yaml
end Headroom
