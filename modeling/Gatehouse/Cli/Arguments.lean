import Gatehouse.Text.Blank
/-!
# Arguments of a command line

A command line is read level by level.  A level knows switches, which may stand anywhere in it, and
then either the names of the next level or places for texts.  A switch has a long name after two
dashes, and may have a letter after one.  Two dashes alone say that only places follow.
-/

namespace Gatehouse.Cli

/-- A switch. -/
structure Switch where
  name : String
  letter : Option Char
  /-- Whether the switch has a value: what is attached to it, or else the next argument. -/
  hasValue : Bool
deriving DecidableEq, Repr

/-- What a level knows. -/
structure Level where
  switches : List Switch
  /-- The number of places for texts. -/
  places : Nat
  /-- The names of the next levels. -/
  commands : List String
  /-- Whether the level can tell the version of the program. -/
  isTop : Bool

/-- Why the reading of a command line ends early. -/
inductive Stop where
  /-- The arguments are not as they should be. -/
  | usage
  | help
  | version
deriving DecidableEq, Repr

/-- What has been read of a level. -/
structure Reading where
  /-- The switches that were given, each with its value or an empty one. -/
  switches : List (String × String)
  places : List String
  /-- The name of the next level, with the arguments left for it. -/
  command : Option (String × List String)
deriving DecidableEq, Repr

namespace Reading

/-- What has been read at first. -/
def blank : Reading := ⟨[], [], none⟩

/-- Whether a switch was given. -/
def has (reading : Reading) (name : String) : Bool := (reading.switches.lookup name).isSome

/-- The value of a switch that was given. -/
def value? (reading : Reading) (name : String) : Option String := reading.switches.lookup name

/-- Add a switch, which may be given only once. -/
def addSwitch (reading : Reading) (switch : Switch) (value : String) : Except Stop Reading :=
  if reading.has switch.name then .error .usage
  else .ok { reading with switches := reading.switches ++ [(switch.name, value)] }

/-- Add a text, if there is a place left for it. -/
def addPlace (reading : Reading) (level : Level) (text : String) : Except Stop Reading :=
  if reading.places.length < level.places then
    .ok { reading with places := reading.places ++ [text] }
  else .error .usage

end Reading

/-- Whether an argument stands for switches. -/
def isSwitch (argument : List Char) : Bool := argument.head? = some '-' && 1 < argument.length

/-- A switch with its value: the attached one, or else the next argument, which must not look like a
switch.  The arguments after it are left. -/
def takeValue (switch : Switch) (attached : Option (List Char)) (rest : List String) :
    Except Stop (String × Nat) :=
  if switch.hasValue then
    match attached, rest with
    | some value, _ => .ok (String.ofList value, 0)
    | none, next :: _ => if isSwitch next.toList then .error .usage else .ok (next, 1)
    | none, [] => .error .usage
  else if attached.isSome then .error .usage
  else .ok ("", 0)

namespace Level

/-- The switch that a long name stands for, with the value attached to it. -/
def longSwitch (level : Level) (text : List Char) :
    Except Stop (Switch × Option (List Char)) :=
  let (name, attached) := match Text.cut? '=' text with
    | some (name, value) => (name, some value)
    | none => (text, none)
  let name := String.ofList name
  if name = "help" then .error .help
  else if name = "version" && level.isTop then .error .version
  else
    match level.switches.find? fun switch => switch.name = name with
    | some switch => .ok (switch, attached)
    | none => .error .usage

/-- The switch that a letter stands for, with the value attached to it. -/
def letterSwitch (level : Level) (letter : Char) (rest : List Char) :
    Except Stop (Switch × Option (List Char)) :=
  if letter = 'h' then .error .help
  else if letter = 'V' && level.isTop then .error .version
  else
    match level.switches.find? fun switch => switch.letter = some letter with
    | some switch =>
        .ok (switch, match rest with
          | [] => none
          | '=' :: value => some value
          | value => some value)
    | none => .error .usage

/-- The switch in an argument, with the value attached to it. -/
def switchOf (level : Level) : List Char → Except Stop (Switch × Option (List Char))
  | '-' :: '-' :: text => level.longSwitch text
  | '-' :: letter :: rest => level.letterSwitch letter rest
  | _ => .error .usage

/-- Read the arguments of a level.  `skipped` arguments have been taken as values already. -/
def read (level : Level) (onlyPlaces : Bool) (reading : Reading) (skipped : Nat) :
    List String → Except Stop Reading
  | [] => .ok reading
  | argument :: rest =>
      match skipped with
      | skipped + 1 => level.read onlyPlaces reading skipped rest
      | 0 =>
          if onlyPlaces then do
            let reading ← reading.addPlace level argument
            level.read true reading 0 rest
          else if level.commands.contains argument then
            .ok { reading with command := some (argument, rest) }
          else if argument = "help" && !level.commands.isEmpty then .error .help
          else if argument = "--" then level.read true reading 0 rest
          else if isSwitch argument.toList then do
            let (switch, attached) ← level.switchOf argument.toList
            let (value, skipped) ← takeValue switch attached rest
            let reading ← reading.addSwitch switch value
            level.read false reading skipped rest
          else do
            let reading ← reading.addPlace level argument
            level.read false reading 0 rest

end Level

end Gatehouse.Cli
