import Headroom.Text.CodePoint

/-!
# Tokens of a YAML text

The tokens of a text make its structure explicit: where collections begin and
end, which nodes are keys, and what the scalars say.

A scalar remembers whether it was written plainly, because only plain scalars
may turn into something other than text.
-/

namespace Headroom
namespace Yaml

/-- An instruction to the reader of a document. -/
inductive Directive
  | version (major minor : Nat)
  | handle (handle tagStart : String)
  | reserved
deriving DecidableEq, Repr

/-- A token. -/
inductive Token
  | directive (directive : Directive)
  | documentStart
  | documentEnd
  | streamEnd
  | blockSequenceStart
  | blockMappingStart
  | blockEnd
  | flowSequenceStart
  | flowSequenceEnd
  | flowMappingStart
  | flowMappingEnd
  | flowEntry
  | blockEntry
  | key
  | value
  | alias (name : String)
  | anchor (name : String)
  | tag (handle : Option String) (suffix : String)
  | scalar (value : Text) (plain : Bool)
deriving DecidableEq, Repr

end Yaml
end Headroom
