import Gatehouse.Data.Word
import Gatehouse.Cli.Arguments
import Gatehouse.Firewall.Selection
/-!
# Commands

What the program can be told to do on its command line.
-/

namespace Gatehouse.Cli

/-- What is done with the packet filter. -/
inductive FilterAction where
  | allow (protocol : String) (port : Nat)
  | revoke (protocol : String) (port : Nat)
  | flush
  | status
deriving DecidableEq, Repr

/-- What is done with accounts. -/
inductive AccountAction where
  | add (name password : String) (displayName email : Option String) (admin : Bool)
  | list
  | reset (name : String) (hours : Option Int)
deriving DecidableEq, Repr

/-- What is done with the configuration. -/
inductive SettingsAction where
  | init (force : Bool)
  | show
deriving DecidableEq, Repr

/-- What the program is told to do. -/
inductive Action where
  | serve
  | filter (preference : Option Firewall.Preference) (action : FilterAction)
  | account (action : AccountAction)
  | settings (action : SettingsAction)
deriving DecidableEq, Repr

/-- A command, with the path of the configuration if one is given. -/
structure Command where
  configuration : Option String
  action : Action
deriving DecidableEq, Repr

namespace Command

/-! ## Levels -/

/-- The switch that names the configuration, which stands at every level. -/
def configurationSwitch : Switch := ⟨"config", some 'c', true⟩

/-- A level with the given switches, places and names. -/
def level (switches : List Switch) (places : Nat) (commands : List String) : Level :=
  ⟨configurationSwitch :: switches, places, commands, false⟩

/-- The first level. -/
def top : Level :=
  { level [] 0 ["serve", "firewall", "principal", "config"] with isTop := true }

/-- The level of the packet filter. -/
def filterLevel : Level :=
  level [⟨"backend", some 'b', true⟩] 0 ["allow", "revoke", "flush", "status"]

/-- The level of accounts. -/
def accountLevel : Level := level [] 0 ["add", "list", "reset"]

/-- The level of the configuration. -/
def settingsLevel : Level := level [] 0 ["init", "show"]

/-- The level of a new account. -/
def addLevel : Level :=
  level [⟨"password", none, true⟩, ⟨"display-name", none, true⟩, ⟨"email", none, true⟩,
    ⟨"admin", none, false⟩] 1 []

/-! ## Reading -/

/-- The path of the configuration after a level is read: the deepest one given counts, and an empty
text is no path. -/
def pathAfter (path : Option String) (reading : Reading) : Except Stop (Option String) :=
  match reading.value? "config" with
  | none => .ok path
  | some given => if given.isEmpty then .error .usage else .ok (some given)

/-- A computation that needs a level read to its end, with the path of the configuration so far. -/
def within {α : Type} (level : Level) (path : Option String) (arguments : List String)
    (next : Option String → Reading → Except Stop α) : Except Stop α := do
  let reading ← level.read false .blank 0 arguments
  next (← pathAfter path reading) reading

/-- The next level by its name. -/
def choose {α : Type} (reading : Reading) (next : String → List String → Except Stop α) :
    Except Stop α :=
  match reading.command with
  | none => .error .usage
  | some (name, rest) => next name rest

/-- A value, or the usage where there is none. -/
def need {α : Type} : Option α → Except Stop α
  | some value => .ok value
  | none => .error .usage

/-- A number of a port. -/
def port? (text : String) : Option Nat :=
  (Text.readInt? 0 Word.greatest32 text.toList).map Int.toNat

/-- A number of hours. -/
def hours? (text : String) : Option Int := Text.readInt? Word.leastSigned Word.greatestSigned text.toList

/-- The protocol and the port in the places of a level. -/
def ruleOf (reading : Reading) : Except Stop (String × Nat) :=
  match reading.places with
  | [protocol, port] => do return (protocol, ← need (port? port))
  | _ => .error .usage

/-- The value of a switch that may be left out. -/
def optionalValue {α : Type} (reading : Reading) (name : String) (parse : String → Option α) :
    Except Stop (Option α) :=
  match reading.value? name with
  | none => .ok none
  | some text => (need (parse text)).map some

/-- Read what is done with the packet filter. -/
def ofFilter (path : Option String) (preference : Option Firewall.Preference) (name : String)
    (rest : List String) : Except Stop Command :=
  let filter (path : Option String) (action : FilterAction) : Command :=
    ⟨path, .filter preference action⟩
  if name = "allow" then
    within (level [] 2 []) path rest fun path reading => do
      let (protocol, port) ← ruleOf reading
      return filter path (.allow protocol port)
  else if name = "revoke" then
    within (level [] 2 []) path rest fun path reading => do
      let (protocol, port) ← ruleOf reading
      return filter path (.revoke protocol port)
  else
    within (level [] 0 []) path rest fun path _ =>
      .ok (filter path (if name = "flush" then .flush else .status))

/-- Read what is done with accounts. -/
def ofAccount (path : Option String) (name : String) (rest : List String) : Except Stop Command :=
  if name = "add" then
    within addLevel path rest fun path reading => do
      let name ← need reading.places.head?
      let password ← need (reading.value? "password")
      return ⟨path, .account (.add name password (reading.value? "display-name")
        (reading.value? "email") (reading.has "admin"))⟩
  else if name = "reset" then
    within (level [⟨"hours", none, true⟩] 1 []) path rest fun path reading => do
      let name ← need reading.places.head?
      let hours ← optionalValue reading "hours" hours?
      return ⟨path, .account (.reset name hours)⟩
  else within (level [] 0 []) path rest fun path _ => .ok ⟨path, .account .list⟩

/-- Read what is done with the configuration. -/
def ofSettings (path : Option String) (name : String) (rest : List String) :
    Except Stop Command :=
  if name = "init" then
    within (level [⟨"force", none, false⟩] 0 []) path rest fun path reading =>
      .ok ⟨path, .settings (.init (reading.has "force"))⟩
  else within (level [] 0 []) path rest fun path _ => .ok ⟨path, .settings .show⟩

/-- Read a command line. -/
def parse (arguments : List String) : Except Stop Command :=
  within top none arguments fun path reading =>
    choose reading fun name rest =>
      if name = "firewall" then
        within filterLevel path rest fun path reading => do
          let preference ← optionalValue reading "backend" Firewall.Preference.parse?
          choose reading (ofFilter path preference)
      else if name = "principal" then
        within accountLevel path rest fun path reading => choose reading (ofAccount path)
      else if name = "config" then
        within settingsLevel path rest fun path reading => choose reading (ofSettings path)
      else within (level [] 0 []) path rest fun path _ => .ok ⟨path, .serve⟩

end Command

end Gatehouse.Cli
