import Headroom.CommandLine.Switch
import Headroom.Journal.Level
import Headroom.Text.Numeral
import Headroom.Text.Quoted

/-!
# Requests

A command line asks for a check of nodes, with a log level and a reservation, or
for help.  Arguments are dealt with one after the other, and help is given as
soon as it is asked for.

The first operands that stand together are the nodes; operands after that are
not recognized.  What is not recognized is reported only when nothing else is
wrong.

A separator that is joined to a switch as its value is no value: the switch then
counts as used, with nothing said about what it is used for.
-/

namespace Headroom
namespace CommandLine

/-- What is said by a switch that has a value. -/
inductive Said (α : Type)
  | value (value : α)
  /-- The switch is used, but its value is missing. -/
  | nothing
deriving DecidableEq, Repr

/-- What a command line asks for. -/
structure Request where
  level : Said LevelName
  reserved : Option (Said Int)
  nodes : List String
deriving DecidableEq, Repr

/-- What is wrong with a command line. -/
inductive Misuse
  | nodesMissing
  | valueMissing (switch : Switch)
  | valueUnexpected (switch : Switch) (value : String)
  | noSuchLevel (value : String)
  | noInteger (value : String)
  | ambiguous (argument : String) (meanings : List Switch)
  | unrecognized (arguments : List String)
deriving DecidableEq, Repr

namespace Misuse

/-- A complaint about a switch. -/
def about
    (switch : Switch)
    (complaint : String) : String :=
  "argument " ++ switch.title ++ ": " ++ complaint

/-- A value between quotes. -/
def quoted (value : String) : String :=
  (Text.ofString value).quoted

/-- The wording of a misuse. -/
def message : Misuse → String
  | .nodesMissing => "the following arguments are required: nodes"
  | .valueMissing switch => about switch "expected one argument"
  | .valueUnexpected switch value =>
    about switch ("ignored explicit argument " ++ quoted value)
  | .noSuchLevel value =>
    about .logLevel ("invalid choice: " ++ quoted value ++ " (choose from " ++
      String.intercalate ", " (LevelName.all.map fun name => quoted name.word) ++ ")")
  | .noInteger value => about .reserved ("invalid int value: " ++ quoted value)
  | .ambiguous argument meanings =>
    "ambiguous option: " ++ argument ++ " could match " ++
      String.intercalate ", " (meanings.map Switch.longForm)
  | .unrecognized arguments => "unrecognized arguments: " ++ String.intercalate " " arguments

end Misuse

/-- Why no check is asked for. -/
inductive Refusal
  | help
  | misuse (misuse : Misuse)
deriving DecidableEq, Repr

/-- The argument after which every other one is an operand. -/
def separator : String := "--"

/-- An argument and how it is understood by itself. -/
structure Argument where
  text : String
  reading : Reading
deriving DecidableEq, Repr

/-- The arguments of a command line, each understood by itself. -/
def understood : List String → Except Misuse (List Argument)
  | [] => .ok []
  | text :: others =>
    match Reading.ofArgument text.toList with
    | .error meanings => .error (.ambiguous text meanings)
    | .ok .separator =>
      .ok (⟨text, .separator⟩ :: others.map fun other => ⟨other, .operand⟩)
    | .ok reading => (understood others).map (⟨text, reading⟩ :: ·)

/-- What one argument with switches stands for. -/
structure Group where
  /-- The switches, each with its value; that of a switch without one is empty. -/
  uses : List (Switch × String)
  /-- The last switch, if its value is yet to come. -/
  pending : Option Switch
deriving DecidableEq, Repr

namespace Group

/-- The group of one switch whose value is yet to come. -/
def awaiting (switch : Switch) : Group :=
  { uses := [], pending := some switch }

/-- A group after a switch without value. -/
def after
    (switch : Switch)
    (group : Group) : Group :=
  { group with uses := (switch, "") :: group.uses }

/-- The group of a switch and what is joined to it: its value, or further letters. -/
def ofJoined
    (byWord : Bool)
    (switch : Switch)
    (joined : List Char) :
    Except Misuse Group :=
  if switch.takesValue then
    .ok { uses := [(switch, String.ofList joined)], pending := none }
  else
    match joined with
    | [] => .error (.valueUnexpected switch "")
    | letter :: rest =>
      match if byWord then none else Switch.ofLetter? letter with
      | none => .error (.valueUnexpected switch (String.ofList joined))
      | some next =>
        if rest.isEmpty then .ok (after switch (awaiting next))
        else (ofJoined false next rest).map (after switch)

/-- The group of a switch. -/
def ofSwitch
    (switch : Switch)
    (byWord : Bool) :
    Option (List Char) → Except Misuse Group
  | none => .ok (awaiting switch)
  | some joined => ofJoined byWord switch joined

/-- A group whose last switch has its value, and the arguments that remain. -/
def complete
    (group : Group)
    (others : List Argument) :
    Except Misuse (Group × List Argument) :=
  match group.pending with
  | none => .ok (group, others)
  | some switch =>
    if switch.takesValue then
      match others with
      | ⟨text, .operand⟩ :: rest =>
        .ok ({ group with uses := group.uses ++ [(switch, text)], pending := none }, rest)
      | _ => .error (.valueMissing switch)
    else .ok ({ group with uses := group.uses ++ [(switch, "")], pending := none }, others)

/-- What remains after a group is no longer than before. -/
theorem length_le_of_complete
    {group completed : Group}
    {others rest : List Argument}
    (success : group.complete others = .ok (completed, rest)) :
    rest.length ≤ others.length := by
  unfold complete at success
  split at success
  · simp only [Except.ok.injEq, Prod.mk.injEq] at success
    exact Nat.le_of_eq (congrArg List.length success.2.symm)
  · split at success
    · split at success
      · simp only [Except.ok.injEq, Prod.mk.injEq] at success
        have remaining := congrArg List.length success.2
        simp only [List.length_cons]
        omega
      · cases success
    · simp only [Except.ok.injEq, Prod.mk.injEq] at success
      exact Nat.le_of_eq (congrArg List.length success.2.symm)

end Group

/-- What is known while arguments are dealt with. -/
structure Progress where
  level : Said LevelName
  reserved : Option (Said Int)
  nodes : Option (List String)
  unrecognized : List String
deriving DecidableEq, Repr

namespace Progress

/-- What is known before any argument is dealt with. -/
def start : Progress :=
  { level := .value .warning, reserved := none, nodes := none, unrecognized := [] }

/-- What a value says, if it can be read; a separator says nothing. -/
def said
    {α : Type}
    (read? : String → Option α)
    (misuse : String → Misuse)
    (value : String) :
    Except Refusal (Said α) :=
  if value = separator then .ok .nothing
  else
    match read? value with
    | some found => .ok (.value found)
    | none => .error (.misuse (misuse value))

/-- What is known after a switch is used. -/
def use
    (progress : Progress) :
    Switch × String → Except Refusal Progress
  | (.help, _) => .error .help
  | (.logLevel, value) =>
    (said LevelName.ofWord? .noSuchLevel value).map fun level => { progress with level }
  | (.reserved, value) =>
    (said (fun value => Numeral.integer? 10 value.toList) .noInteger value).map fun reserved =>
      { progress with reserved := some reserved }

/-- What is known after some operands: they are the nodes, or else not recognized. -/
def takeOperands
    (progress : Progress)
    (operands : List Argument) : Progress :=
  let texts := operands.map (·.text)
  if progress.nodes.isNone && operands.any (·.reading == .operand) then
    { progress with
      nodes := some (texts.erase separator) }
  else { progress with unrecognized := progress.unrecognized ++ texts }

/-- What is known after arguments are dealt with. -/
def takeAll
    (progress : Progress)
    (arguments : List Argument) :
    Except Refusal Progress :=
  match arguments with
  | [] => .ok progress
  | ⟨text, .unknownSwitch⟩ :: others =>
    takeAll { progress with unrecognized := progress.unrecognized ++ [text] } others
  | ⟨_, .given switch byWord joined⟩ :: others =>
    match Group.ofSwitch switch byWord joined with
    | .error misuse => .error (.misuse misuse)
    | .ok group =>
      match completion : group.complete others with
      | .error misuse => .error (.misuse misuse)
      | .ok (completed, rest) =>
        have := Group.length_le_of_complete completion
        match completed.uses.foldlM use progress with
        | .error refusal => .error refusal
        | .ok progress =>
          takeAll progress rest
  | operand :: others =>
    have := (List.dropWhile_suffix (·.reading.isOperand) (l := others)).length_le
    takeAll (progress.takeOperands (operand :: others.takeWhile (·.reading.isOperand)))
      (others.dropWhile (·.reading.isOperand))
termination_by arguments.length
decreasing_by
  all_goals simp only [List.length_cons]
  all_goals omega

/-- The request that is made, once all arguments are dealt with. -/
def request (progress : Progress) : Except Misuse Request :=
  match progress.nodes with
  | none => .error .nodesMissing
  | some nodes =>
    if progress.unrecognized.isEmpty then
      .ok { level := progress.level, reserved := progress.reserved, nodes }
    else .error (.unrecognized progress.unrecognized)

end Progress

/-- The request that a command line makes. -/
def Request.ofArguments (arguments : List String) : Except Refusal Request :=
  match understood arguments with
  | .error misuse => .error (.misuse misuse)
  | .ok arguments =>
    match Progress.start.takeAll arguments with
    | .error refusal => .error refusal
    | .ok progress => progress.request.mapError .misuse

end CommandLine
end Headroom
