import Gatehouse.SortedMap
import Gatehouse.Json.Number
import Gatehouse.Data.Hex
/-!
# JSON documents

The documents and their two written forms: the compact one on a single line, and the pretty one
with a line for each item and two blanks for each level.  Members of an object are written in the
order of the list that holds them.  A document made by `Json.ofMembers` or read from a text has them
by increasing name, each name once.
-/

namespace Gatehouse

/-- A JSON document. -/
inductive Json where
  | null
  | bool (value : Bool)
  | number (value : Json.Number)
  | string (value : String)
  | array (items : List Json)
  | object (members : List (String × Json))
deriving Repr, Inhabited

namespace Json

/-- The document for an integer. -/
def int (n : Int) : Json := .number (.int n)

/-- The document for a natural number. -/
def nat (n : Nat) : Json := .number (.int n)

/-- A text, or `null` for none. -/
def ofText? : Option String → Json
  | some text => .string text
  | none => .null

/-- The object with the given members, by increasing name; the last of one name stays. -/
def ofMembers (members : List (String × Json)) : Json :=
  .object (SortedMap.ofList members).toList

/-! ## Looking into a document -/

/-- The member of an object with the given name. -/
def member? (name : String) : Json → Option Json
  | .object members => (members.find? fun entry => entry.1 = name).map Prod.snd
  | _ => none

/-- The text of a string. -/
def text? : Json → Option String
  | .string value => some value
  | _ => none

/-- The items of an array. -/
def items? : Json → Option (List Json)
  | .array items => some items
  | _ => none

/-- A number that is a natural number of 64 bits. -/
def nat? : Json → Option Nat
  | .number (.int n) => if 0 ≤ n then some n.toNat else none
  | _ => none

/-! ## Written forms -/

/-- A character inside a string: quotes, backslashes and control characters are escaped. -/
def escapeChar (c : Char) : List Char :=
  if c = '"' then ['\\', '"']
  else if c = '\\' then ['\\', '\\']
  else if 0x20 ≤ c.toNat then [c]
  else if c = '\n' then ['\\', 'n']
  else if c = '\r' then ['\\', 'r']
  else if c = '\t' then ['\\', 't']
  else if c.toNat = 8 then ['\\', 'b']
  else if c.toNat = 12 then ['\\', 'f']
  else ['\\', 'u', '0', '0', Hex.digit (c.toNat / 16), Hex.digit (c.toNat % 16)]

/-- A string in quotes. -/
def quote (text : String) : List Char :=
  '"' :: text.toList.flatMap escapeChar ++ ['"']

mutual

/-- The compact form of a document. -/
def compactChars : Json → List Char
  | .null => "null".toList
  | .bool true => "true".toList
  | .bool false => "false".toList
  | .number n => n.text
  | .string text => quote text
  | .array items => '[' :: compactItems items
  | .object members => '{' :: compactMembers members

/-- The items of an array and the bracket that closes it. -/
def compactItems : List Json → List Char
  | [] => [']']
  | [item] => item.compactChars ++ [']']
  | item :: rest => item.compactChars ++ ',' :: compactItems rest

/-- The members of an object and the brace that closes it. -/
def compactMembers : List (String × Json) → List Char
  | [] => ['}']
  | [(name, value)] => quote name ++ ':' :: value.compactChars ++ ['}']
  | (name, value) :: rest => quote name ++ ':' :: value.compactChars ++ ',' :: compactMembers rest

end

/-- A new line at the given level. -/
def newLine (level : Nat) : List Char := '\n' :: List.replicate (2 * level) ' '

mutual

/-- The pretty form of a document at the given level. -/
def prettyChars (level : Nat) : Json → List Char
  | .array (item :: rest) =>
      '[' :: newLine (level + 1) ++ item.prettyChars (level + 1) ++ prettyItems level rest
  | .object ((name, value) :: rest) =>
      '{' :: newLine (level + 1) ++ quote name ++ ':' :: ' ' :: value.prettyChars (level + 1) ++
        prettyMembers level rest
  | json => json.compactChars

/-- The items of an array after the first, and the bracket that closes it. -/
def prettyItems (level : Nat) : List Json → List Char
  | [] => newLine level ++ [']']
  | item :: rest =>
      ',' :: newLine (level + 1) ++ item.prettyChars (level + 1) ++ prettyItems level rest

/-- The members of an object after the first, and the brace that closes it. -/
def prettyMembers (level : Nat) : List (String × Json) → List Char
  | [] => newLine level ++ ['}']
  | (name, value) :: rest =>
      ',' :: newLine (level + 1) ++ quote name ++ ':' :: ' ' :: value.prettyChars (level + 1) ++
        prettyMembers level rest

end

/-- The compact text of a document. -/
def compact (json : Json) : String := String.ofList json.compactChars

/-- The pretty text of a document. -/
def pretty (json : Json) : String := String.ofList (json.prettyChars 0)

mutual

/-- The document with the members of all its objects by increasing name. -/
def sorted : Json → Json
  | .array items => .array (sortedItems items)
  | .object members => .object (sortedMembers members)
  | json => json

/-- Documents with their members by increasing name. -/
def sortedItems : List Json → List Json
  | [] => []
  | item :: rest => item.sorted :: sortedItems rest

/-- Members by increasing name, in depth. -/
def sortedMembers : List (String × Json) → List (String × Json)
  | [] => []
  | (name, value) :: rest => Entries.insert name value.sorted (sortedMembers rest)

end

end Json

end Gatehouse
