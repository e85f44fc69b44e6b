import Headroom.Text.Digit

/-!
# Switches

A switch is given by a letter after one dash or by a word after two; the word may
be shortened as long as it stays the beginning of one word only.  A value may be
joined to a switch: to a word after an equals sign, to a letter directly or after
one.

An argument that is no switch is an operand.  Negative numbers are operands, and
so are arguments with a space that begin no switch.
-/

namespace Headroom
namespace CommandLine

/-- The switches. -/
inductive Switch
  | help
  | logLevel
  | reserved
deriving DecidableEq, Repr

namespace Switch

/-- The switches, in the order in which they are listed. -/
def all : List Switch := [.help, .logLevel, .reserved]

/-- The letter of a switch. -/
def letter : Switch → Char
  | .help => 'h'
  | .logLevel => 'l'
  | .reserved => 'r'

/-- The word of a switch. -/
def word : Switch → String
  | .help => "help"
  | .logLevel => "loglevel"
  | .reserved => "reserved"

/-- The word of a switch with its dashes. -/
def longForm (switch : Switch) : String :=
  "--" ++ switch.word

/-- A switch as messages name it. -/
def title (switch : Switch) : String :=
  String.ofList ['-', switch.letter] ++ "/" ++ switch.longForm

/-- Whether a switch has a value. -/
def takesValue : Switch → Bool
  | .help => false
  | .logLevel | .reserved => true

/-- The switch with a letter. -/
def ofLetter? (letter : Char) : Option Switch :=
  all.find? fun switch => switch.letter == letter

/-- The switches whose words have a beginning. -/
def withBeginning (beginning : List Char) : List Switch :=
  all.filter fun switch => beginning.isPrefixOf switch.word.toList

end Switch

/-- How an argument is understood by itself. -/
inductive Reading
  | operand
  /-- Two dashes, after which every argument is an operand. -/
  | separator
  | given (switch : Switch) (byWord : Bool) (joined : Option (List Char))
  | unknownSwitch
deriving DecidableEq, Repr

namespace Reading

/-- Whether an argument can stand among operands. -/
def isOperand : Reading → Bool
  | .operand | .separator => true
  | _ => false

/-- The value joined to a word after an equals sign, if there is one. -/
def joinedToWord? (text : List Char) : Option (List Char) :=
  match text.dropWhile (· != '=') with
  | _ :: value => some value
  | [] => none

/-- Whether what follows a dash is a number. -/
def isUnsignedNumber (text : List Char) : Bool :=
  let isDigit (char : Char) : Bool := (digit? char).isSome
  let body := if text.getLast? = some '\n' then text.dropLast else text
  match body.dropWhile isDigit with
  | [] => !body.isEmpty
  | '.' :: fraction => !fraction.isEmpty && fraction.all isDigit
  | _ => false

/-- An argument of which no switch is the beginning. -/
def ofOther (argument : List Char) : Reading :=
  if isUnsignedNumber argument.tail || argument.contains ' ' then .operand else .unknownSwitch

/-- How an argument that begins with one dash is understood, given what follows the dash. -/
def ofLetters : List Char → Reading
  | [] => .operand
  | letter :: rest =>
    match Switch.ofLetter? letter with
    | none => ofOther ('-' :: letter :: rest)
    | some switch =>
      match rest with
      | [] => .given switch false none
      | '=' :: value => .given switch false (some value)
      | joined => .given switch false (some joined)

/-- How an argument that begins with two dashes is understood, or the words that it may mean. -/
def ofWord (text : List Char) : Except (List Switch) Reading :=
  match Switch.withBeginning (text.takeWhile (· != '=')) with
  | [] => .ok (ofOther ('-' :: '-' :: text))
  | [switch] => .ok (.given switch true (joinedToWord? text))
  | several => .error several

/-- How an argument is understood, or the words that it may mean. -/
def ofArgument : List Char → Except (List Switch) Reading
  | ['-', '-'] => .ok .separator
  | '-' :: '-' :: text => ofWord text
  | '-' :: text => .ok (ofLetters text)
  | _ => .ok .operand

end Reading
end CommandLine
end Headroom
