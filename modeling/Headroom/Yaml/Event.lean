import Headroom.Yaml.Token.Stream

/-!
# Events of a YAML text

Events tell the nodes of a text in order: each scalar and alias, and where each
sequence and mapping begins and ends.  Nodes that are left out between tokens
appear as empty scalars.

Events are read off the tokens by a machine whose stack says what is expected
after the current node.
-/

namespace Headroom
namespace Yaml

/-- What is said about a node before its content. -/
structure Properties where
  anchor : Option String
  /-- The full tag, if one is written. -/
  tag : Option String
deriving DecidableEq, Repr

/-- A node without properties. -/
def Properties.none : Properties :=
  { anchor := Option.none, tag := Option.none }

/-- Whether the tag of a node is to be found from its content. -/
def Properties.isUntagged (properties : Properties) : Bool :=
  properties.tag == Option.none || properties.tag == some "!"

/-- An event. -/
inductive Event
  | documentStart
  | documentEnd
  | alias (name : String)
  /-- A scalar; one that is resolved may turn out to be something other than text. -/
  | scalar (properties : Properties) (value : Text) (resolved : Bool)
  | sequenceStart (properties : Properties)
  | sequenceEnd
  | mappingStart (properties : Properties)
  | mappingEnd
deriving DecidableEq, Repr

/-- What is expected next. -/
inductive Expectation
  | firstDocument
  | document
  | documentContent
  | documentEnd
  | blockNode
  | blockSequenceEntry
  | indentlessEntry
  | blockKey
  | blockValue
  | flowSequenceFirst
  | flowSequenceEntry
  | pairKey
  | pairValue
  | pairEnd
  | flowMappingFirst
  | flowKey
  | flowValue
  | flowEmptyValue
  | nothing
deriving DecidableEq, Repr

/-- The state of reading events. -/
structure Reading where
  tokens : List Token
  fault : Option Fault
  /-- What is expected next. -/
  expected : Expectation
  /-- What is expected after the nodes that are open. -/
  later : List Expectation
  /-- The tags that handles stand for. -/
  handles : List (String × String)

namespace Reading

/-- The handles that need no declaration. -/
def defaultHandles : List (String × String) :=
  [("!", "!"), ("!!", "tag:yaml.org,2002:")]

/-- The state before the first event. -/
def start (stream : TokenStream) : Reading :=
  { tokens := stream.tokens, fault := stream.fault, expected := .firstDocument, later := []
    handles := defaultHandles }

/-- The next token. -/
def peek (reading : Reading) : Except Fault Token :=
  match reading.tokens with
  | [] => .error (reading.fault.getD .malformed)
  | token :: _ => .ok token

/-- The state after the next token. -/
def drop (reading : Reading) : Reading :=
  { reading with tokens := reading.tokens.tail }

/-- The state in which something else is expected. -/
def expect
    (expected : Expectation)
    (reading : Reading) : Reading :=
  { reading with expected }

/-- The state in which something is expected after the node that is about to be read. -/
def defer
    (expected : Expectation)
    (reading : Reading) : Reading :=
  { reading with later := expected :: reading.later }

/-- The state after a node is complete. -/
def resume (reading : Reading) : Reading :=
  match reading.later with
  | [] => reading.expect .nothing
  | expected :: later => { reading with expected, later }

/-- The event of a node that is left out. -/
def emptyScalar : Event :=
  .scalar .none [] true

/-- The full tag that a written tag stands for. -/
def fullTag
    (reading : Reading)
    (handle : Option String)
    (suffix : String) :
    Except Fault String :=
  match handle with
  | none => .ok suffix
  | some handle =>
    match reading.handles.lookup handle with
    | none => .error .malformed
    | some tagStart => .ok (tagStart ++ suffix)

/-- The properties of the next node, in either order, and the state after them. -/
def properties (reading : Reading) : Except Fault (Properties × Reading) := do
  let finish (anchor : Option String) (tag : Option (Option String × String))
      (reading : Reading) : Except Fault (Properties × Reading) :=
    match tag with
    | none => .ok ({ anchor, tag := none }, reading)
    | some (handle, suffix) => do
      let tag ← reading.fullTag handle suffix
      return ({ anchor, tag := some tag }, reading)
  match ← reading.peek with
  | .anchor name =>
    let reading := reading.drop
    match ← reading.peek with
    | .tag handle suffix => finish (some name) (some (handle, suffix)) reading.drop
    | _ => finish (some name) none reading
  | .tag handle suffix =>
    let reading := reading.drop
    match ← reading.peek with
    | .anchor name => finish (some name) (some (handle, suffix)) reading.drop
    | _ => finish none (some (handle, suffix)) reading
  | _ => finish none none reading

/-- Where a node stands. -/
inductive Place
  | flow
  | block
  | blockOrIndentless
deriving DecidableEq, Repr

/-- The first event of a node. -/
def node
    (place : Place)
    (reading : Reading) :
    Except Fault (Event × Reading) := do
  if let .alias name ← reading.peek then
    return (.alias name, reading.drop.resume)
  let (properties, reading) ← reading.properties
  let empty := properties.anchor.isNone && properties.tag.isNone
  match ← reading.peek with
  | .blockEntry =>
    if place = .blockOrIndentless then
      return (.sequenceStart properties, reading.expect .indentlessEntry)
    else if empty then throw .malformed
    else return (.scalar properties [] properties.isUntagged, reading.resume)
  | .scalar value plain =>
    let resolved := (plain && properties.tag.isNone) || properties.tag == some "!"
    return (.scalar properties value resolved, reading.drop.resume)
  | .flowSequenceStart =>
    return (.sequenceStart properties, reading.drop.expect .flowSequenceFirst)
  | .flowMappingStart =>
    return (.mappingStart properties, reading.drop.expect .flowMappingFirst)
  | .blockSequenceStart =>
    if place ≠ .flow then
      return (.sequenceStart properties, reading.drop.expect .blockSequenceEntry)
    else if empty then throw .malformed
    else return (.scalar properties [] properties.isUntagged, reading.resume)
  | .blockMappingStart =>
    if place ≠ .flow then
      return (.mappingStart properties, reading.drop.expect .blockKey)
    else if empty then throw .malformed
    else return (.scalar properties [] properties.isUntagged, reading.resume)
  | _ =>
    if empty then throw .malformed
    else return (.scalar properties [] properties.isUntagged, reading.resume)

/-- A node that may be left out before given tokens, and what is expected after it. -/
def nodeOrEmpty
    (place : Place)
    (after : Expectation)
    (closers : List Token)
    (reading : Reading) :
    Except Fault (Event × Reading) := do
  if (← reading.peek) ∈ closers then
    return (emptyScalar, reading.expect after)
  (reading.defer after).node place

/-- The directives before a document, with the version and the handles found so far. -/
def directives
    (versioned : Bool)
    (handles : List (String × String)) :
    List Token → Except Fault (List (String × String) × List Token)
  | .directive (.version major _) :: rest =>
    if versioned || major != 1 then .error .malformed else directives true handles rest
  | .directive (.handle handle tagStart) :: rest =>
    if (handles.lookup handle).isSome then .error .malformed
    else directives versioned ((handle, tagStart) :: handles) rest
  | .directive .reserved :: rest => directives versioned handles rest
  | tokens => .ok (handles, tokens)

/-- The start of a further document, or the end of the text. -/
def document (reading : Reading) : Except Fault (Option Event × Reading) := do
  let reading := { reading with tokens := reading.tokens.dropWhile (· == Token.documentEnd) }
  if (← reading.peek) = .streamEnd then
    return (none, reading.drop.expect .nothing)
  let (handles, tokens) ← directives false [] reading.tokens
  let reading := { reading with handles := handles ++ defaultHandles, tokens }
  if (← reading.peek) = .documentStart then
    return (some .documentStart, (reading.drop.defer .documentEnd).expect .documentContent)
  throw .malformed

/-- Whether a token cannot begin the content of a document. -/
def endsDocument : Token → Bool
  | .directive _ | .documentStart | .documentEnd | .streamEnd => true
  | _ => false

/-- The entry of a flow sequence, after the comma. -/
def flowEntry (reading : Reading) : Except Fault (Event × Reading) := do
  match ← reading.peek with
  | .key => return (.mappingStart .none, reading.expect .pairKey)
  | .flowSequenceEnd => return (.sequenceEnd, reading.drop.resume)
  | _ => (reading.defer .flowSequenceEntry).node .flow

/-- The key of a flow mapping, after the comma. -/
def flowKey (reading : Reading) : Except Fault (Event × Reading) := do
  match ← reading.peek with
  | .key =>
    reading.drop.nodeOrEmpty .flow .flowValue [.value, .flowEntry, .flowMappingEnd]
  | .flowMappingEnd => return (.mappingEnd, reading.drop.resume)
  | _ => (reading.defer .flowEmptyValue).node .flow

/-- The value after a key: a node, or nothing before given tokens or without a colon. -/
def valueOrEmpty
    (place : Place)
    (after : Expectation)
    (closers : List Token)
    (reading : Reading) :
    Except Fault (Event × Reading) := do
  match ← reading.peek with
  | .value => reading.drop.nodeOrEmpty place after closers
  | _ => return (emptyScalar, reading.expect after)

/-- The next event, unless the text is at its end. -/
def step (reading : Reading) : Except Fault (Option Event × Reading) := do
  let emit (found : Except Fault (Event × Reading)) : Except Fault (Option Event × Reading) :=
    found.map fun (event, reading) => (some event, reading)
  match reading.expected with
  | .firstDocument =>
    match ← reading.peek with
    | .directive _ | .documentStart | .streamEnd => reading.document
    | _ =>
      return (some .documentStart, (reading.defer .documentEnd).expect .blockNode)
  | .document => reading.document
  | .documentContent =>
    if endsDocument (← reading.peek) then return (some emptyScalar, reading.resume)
    else emit (reading.node .block)
  | .documentEnd =>
    if (← reading.peek) = .documentEnd then
      return (some .documentEnd, reading.drop.expect .document)
    else return (some .documentEnd, reading.expect .document)
  | .blockNode => emit (reading.node .block)
  | .blockSequenceEntry =>
    match ← reading.peek with
    | .blockEntry =>
      emit (reading.drop.nodeOrEmpty .block .blockSequenceEntry [.blockEntry, .blockEnd])
    | .blockEnd => return (some .sequenceEnd, reading.drop.resume)
    | _ => throw .malformed
  | .indentlessEntry =>
    match ← reading.peek with
    | .blockEntry =>
      emit (reading.drop.nodeOrEmpty .block .indentlessEntry
        [.blockEntry, .key, .value, .blockEnd])
    | _ => return (some .sequenceEnd, reading.resume)
  | .blockKey =>
    match ← reading.peek with
    | .key =>
      emit (reading.drop.nodeOrEmpty .blockOrIndentless .blockValue [.key, .value, .blockEnd])
    | .blockEnd => return (some .mappingEnd, reading.drop.resume)
    | _ => throw .malformed
  | .blockValue =>
    emit (reading.valueOrEmpty .blockOrIndentless .blockKey [.key, .value, .blockEnd])
  | .flowSequenceFirst => emit reading.flowEntry
  | .flowSequenceEntry =>
    match ← reading.peek with
    | .flowSequenceEnd => return (some .sequenceEnd, reading.drop.resume)
    | .flowEntry => emit reading.drop.flowEntry
    | _ => throw .malformed
  | .pairKey =>
    emit (reading.drop.nodeOrEmpty .flow .pairValue [.value, .flowEntry, .flowSequenceEnd])
  | .pairValue =>
    emit (reading.valueOrEmpty .flow .pairEnd [.flowEntry, .flowSequenceEnd])
  | .pairEnd => return (some .mappingEnd, reading.expect .flowSequenceEntry)
  | .flowMappingFirst => emit reading.flowKey
  | .flowKey =>
    match ← reading.peek with
    | .flowMappingEnd => return (some .mappingEnd, reading.drop.resume)
    | .flowEntry => emit reading.drop.flowKey
    | _ => throw .malformed
  | .flowValue =>
    emit (reading.valueOrEmpty .flow .flowKey [.flowEntry, .flowMappingEnd])
  | .flowEmptyValue => return (some emptyScalar, reading.expect .flowKey)
  | .nothing => return (none, reading)

end Reading

/-- The events of a text, and the fault that ends them, if one does. -/
structure EventStream where
  events : List Event
  fault : Option Fault
deriving DecidableEq, Repr

namespace EventStream

/-- The events from a state on. -/
def after : Nat → Reading → EventStream
  | 0, _ => { events := [], fault := some .malformed }
  | fuel + 1, reading =>
    match reading.step with
    | .error fault => { events := [], fault := some fault }
    | .ok (none, _) => { events := [], fault := none }
    | .ok (some event, reading) =>
      let stream := after fuel reading
      { stream with events := event :: stream.events }

/-- The events of a text. -/
def ofText (text : List Char) : EventStream :=
  let stream := TokenStream.ofText text
  after (4 * stream.tokens.length + 16) (.start stream)

end EventStream
end Yaml
end Headroom
