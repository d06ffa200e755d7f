import Gatehouse.Json.Basic
/-!
# JSON texts as far as they can be read

`Draft.scan` reads a text as JSON without failing.  It gives the document that the text holds, or
begins to hold, with a `fault` at the place where the text stops being JSON.  Some parts of a text
are well formed and still have no value: a string with half of a surrogate pair or with bytes
that are no UTF-8, and a number that is too large.  They stay in the draft without their value, so
that a reader who skips over such a part does not mind, and a reader who needs it refuses.
-/

namespace Gatehouse

/-- One unit of a text: a character, or a stretch of bytes that belongs to none. -/
abbrev Symbol := Option Char

/-- A JSON text as far as it can be read. -/
inductive Draft where
  | null
  | bool (value : Bool)
  /-- A number, without its value when that is too large. -/
  | number (value : Option Json.Number)
  /-- A string, without its value when it holds no text. -/
  | string (value : Option String)
  | array (items : List Draft)
  | object (members : List (Option String × Draft))
  /-- Here the text stops being JSON; nothing after this place has been read. -/
  | fault
deriving Inhabited

namespace Draft

/-- The blanks between the parts of a JSON text. -/
def isGap (symbol : Symbol) : Bool :=
  symbol = some ' ' || symbol = some '\n' || symbol = some '\t' || symbol = some '\r'

/-- The symbols from the first that is no blank. -/
def skipGap (text : List Symbol) : List Symbol := text.dropWhile isGap

/-! ## Strings -/

/-- The value of four hexadecimal digits. -/
def hex4? (a b c d : Symbol) : Option Nat := do
  Hex.number? [← a, ← b, ← c, ← d]

/-- The character for an escape of one letter. -/
def simpleEscape? (c : Char) : Option Char :=
  if c = '"' || c = '\\' || c = '/' then some c
  else if c = 'b' then some '\x08'
  else if c = 'f' then some '\x0c'
  else if c = 'n' then some '\n'
  else if c = 'r' then some '\r'
  else if c = 't' then some '\t'
  else none

/-- A high surrogate. -/
def isHigh (n : Nat) : Bool := 0xD800 ≤ n && n ≤ 0xDBFF

/-- A low surrogate. -/
def isLow (n : Nat) : Bool := 0xDC00 ≤ n && n ≤ 0xDFFF

/-- The low surrogate that a text starts with, and how many symbols spell it. -/
def lowSurrogate? : List Symbol → Option Nat
  | some '\\' :: some 'u' :: a :: b :: c :: d :: _ => (hex4? a b c d).filter isLow
  | _ => none

/-- The next character of a string and how many symbols after the first spell it.  The character is
missing when there is none by that spelling.  There is no answer at the end of the string and where
the text stops being JSON. -/
def nextChar? : Symbol → List Symbol → Option (Symbol × Nat)
  | none, _ => some (none, 0)
  | some '\\', some 'u' :: a :: b :: c :: d :: rest => do
      let n ← hex4? a b c d
      if isHigh n then
        match lowSurrogate? rest with
        | some m => some (some (Char.ofNat (0x10000 + (n - 0xD800) * 1024 + (m - 0xDC00))), 11)
        | none => some (none, 5)
      else if isLow n then some (none, 5)
      else some (some (Char.ofNat n), 5)
  | some '\\', some c :: _ => do
      let escaped ← simpleEscape? c
      some (some escaped, 1)
  | some c, _ => if c = '"' || c = '\\' || c.toNat < 0x20 then none else some (some c, 0)

/-- The characters of a string up to its closing quote, and the text after the quote. -/
def scanString : List Symbol → Option (List Symbol × List Symbol)
  | [] => none
  | symbol :: rest =>
      if symbol = some '"' then some ([], rest)
      else
        match nextChar? symbol rest with
        | none => none
        | some (c, more) =>
            (scanString (rest.drop more)).map fun found => (c :: found.1, found.2)
termination_by text => text.length
decreasing_by simp only [List.length_drop, List.length_cons]; omega

/-- The text of some symbols, if each of them is a character. -/
def textOf? (symbols : List Symbol) : Option String := (symbols.mapM id).map String.ofList

/-! ## Numbers -/

/-- The digits that a text starts with. -/
def leadingDigits : List Symbol → List Char
  | some c :: rest => if c.isDigit then c :: leadingDigits rest else []
  | _ => []

/-- Digits, of which there has to be one, and the text after them. -/
def scanDigits (text : List Symbol) : Option (List Char × List Symbol) :=
  let row := leadingDigits text
  if row.isEmpty then none else some (row, text.drop row.length)

/-- The fraction of a number, if there is one. -/
def scanFraction : List Symbol → Option (Option (List Char) × List Symbol)
  | some '.' :: rest => (scanDigits rest).map fun found => (some found.1, found.2)
  | text => some (none, text)

/-- The exponent of a number, if there is one. -/
def scanExponent : List Symbol → Option (Option (Bool × List Char) × List Symbol)
  | some c :: rest =>
      if c = 'e' || c = 'E' then
        let (negative, rest) := match rest with
          | some '-' :: more => (true, more)
          | some '+' :: more => (false, more)
          | _ => (false, rest)
        (scanDigits rest).map fun found => (some (negative, found.1), found.2)
      else some (none, some c :: rest)
  | text => some (none, text)

/-- A number and the text after it. -/
def scanNumber (text : List Symbol) : Option (Json.Number.Spelling × List Symbol) := do
  let (negative, text) := match text with
    | some '-' :: rest => (true, rest)
    | _ => (false, text)
  let (whole, text) ← scanDigits text
  if whole.head? = some '0' && 1 < whole.length then none
  else
    let (fraction, text) ← scanFraction text
    let (exponent, text) ← scanExponent text
    return (⟨negative, whole, fraction, exponent⟩, text)

/-! ## Values -/

/-- The text after a word that it starts with. -/
def afterWord? (word : String) (text : List Symbol) : Option (List Symbol) :=
  if (word.toList.map some).isPrefixOf text then some (text.drop word.length) else none

/-- A draft and the text after it; no text is left after a fault. -/
abbrev Scan (α : Type) := α × Option (List Symbol)

/-- What is read where the text stops being JSON. -/
def broken : Scan Draft := (.fault, none)

/-- A value that is one word. -/
def scanWord (word : String) (value : Draft) (text : List Symbol) : Scan Draft :=
  match afterWord? word text with
  | some rest => (value, some rest)
  | none => broken

mutual

/-- Read one value. -/
def scanValue : Nat → List Symbol → Scan Draft
  | 0, _ => broken
  | fuel + 1, text =>
      match skipGap text with
      | [] => broken
      | none :: _ => broken
      | some c :: rest =>
          if c = 'n' then scanWord "ull" .null rest
          else if c = 't' then scanWord "rue" (.bool true) rest
          else if c = 'f' then scanWord "alse" (.bool false) rest
          else if c = '"' then
            match scanString rest with
            | some (symbols, rest) => (.string (textOf? symbols), some rest)
            | none => broken
          else if c = '[' then
            match skipGap rest with
            | some ']' :: rest => (.array [], some rest)
            | _ =>
                let (items, rest) := scanItems fuel rest
                (.array items, rest)
          else if c = '{' then
            match skipGap rest with
            | some '}' :: rest => (.object [], some rest)
            | _ =>
                let (members, rest) := scanMembers fuel rest
                (.object members, rest)
          else
            match scanNumber (some c :: rest) with
            | some (spelling, rest) => (.number spelling.value?, some rest)
            | none => broken

/-- Read the items of an array from the next one on. -/
def scanItems : Nat → List Symbol → Scan (List Draft)
  | 0, _ => ([.fault], none)
  | fuel + 1, text =>
      match scanValue fuel text with
      | (item, none) => ([item], none)
      | (item, some rest) =>
          match skipGap rest with
          | some ',' :: rest =>
              let (items, rest) := scanItems fuel rest
              (item :: items, rest)
          | some ']' :: rest => ([item], some rest)
          | _ => ([item, .fault], none)

/-- Read the members of an object from the next one on. -/
def scanMembers : Nat → List Symbol → Scan (List (Option String × Draft))
  | 0, _ => ([(none, .fault)], none)
  | fuel + 1, text =>
      match skipGap text with
      | some '"' :: rest =>
          match scanString rest with
          | none => ([(none, .fault)], none)
          | some (symbols, rest) =>
              let name := textOf? symbols
              match skipGap rest with
              | some ':' :: rest =>
                  match scanValue fuel rest with
                  | (value, none) => ([(name, value)], none)
                  | (value, some rest) =>
                      match skipGap rest with
                      | some ',' :: rest =>
                          let (members, rest) := scanMembers fuel rest
                          ((name, value) :: members, rest)
                      | some '}' :: rest => ([(name, value)], some rest)
                      | _ => ([(name, value), (none, .fault)], none)
              | _ => ([(name, .fault)], none)
      | _ => ([(none, .fault)], none)

end

/-- Read the value that a text starts with. -/
def scan (text : List Symbol) : Scan Draft := scanValue (text.length + 1) text

/-- The draft of a document. -/
def ofJson : Json → Draft
  | .null => .null
  | .bool value => .bool value
  | .number n => .number (some n)
  | .string text => .string (some text)
  | .array items => .array (ofItems items)
  | .object members => .object (ofMembers members)
where
  /-- The drafts of the items of an array. -/
  ofItems : List Json → List Draft
    | [] => []
    | item :: rest => ofJson item :: ofItems rest
  /-- The drafts of the members of an object. -/
  ofMembers : List (String × Json) → List (Option String × Draft)
    | [] => []
    | (name, value) :: rest => (some name, ofJson value) :: ofMembers rest

end Draft

end Gatehouse
