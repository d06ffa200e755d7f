/-!
# Blanks

The characters that Unicode calls `White_Space`, and the two things that texts are commonly put
through because of them: trimming both ends, and cutting into words.
-/

namespace Gatehouse.Text

/-- The characters with the Unicode property `White_Space`.  The zero-width space and the byte
order mark are not among them. -/
def isBlank (c : Char) : Bool :=
  let n := c.toNat
  (9 ≤ n && n ≤ 13) || n = 0x20 || n = 0x85 || n = 0xA0 || n = 0x1680 ||
    (0x2000 ≤ n && n ≤ 0x200A) || n = 0x2028 || n = 0x2029 || n = 0x202F || n = 0x205F ||
    n = 0x3000

/-- The text from its first character that is no blank. -/
def trimLeft (text : List Char) : List Char := text.dropWhile isBlank

/-- The text up to its last character that is no blank. -/
def trimRight (text : List Char) : List Char := (text.reverse.dropWhile isBlank).reverse

/-- The text without the blanks at both ends. -/
def trim (text : String) : String := String.ofList (trimRight (trimLeft text.toList))

/-- The stretches between the places where `isBreak` holds, the empty ones too. -/
def splitWhere (isBreak : Char → Bool) : List Char → List (List Char)
  | [] => [[]]
  | c :: rest =>
      if isBreak c then [] :: splitWhere isBreak rest
      else
        match splitWhere isBreak rest with
        | [] => [[c]]
        | first :: others => (c :: first) :: others

/-- The parts of a text between the occurrences of `separator`, the empty ones too. -/
def split (separator : Char) (text : String) : List String :=
  (splitWhere (· = separator) text.toList).map String.ofList

/-- The text before the first `separator` and the text after it. -/
def cut? (separator : Char) : List Char → Option (List Char × List Char)
  | [] => none
  | c :: rest =>
      if c = separator then some ([], rest)
      else (cut? separator rest).map fun parts => (c :: parts.1, parts.2)

/-- The stretches of a text that hold no blank. -/
def words (text : String) : List String :=
  ((splitWhere isBlank text.toList).filter fun word => !word.isEmpty).map String.ofList

/-- The lines of a text.  A line ends at a line feed, which may follow a carriage return; a last
line needs no end, and an empty one is not counted. -/
def lines (text : String) : List String :=
  let parts := splitWhere (· = '\n') text.toList
  let ended := parts.dropLast.map fun line =>
    if line.getLast? = some '\r' then line.dropLast else line
  let rest := parts.getLast?.getD []
  (if rest.isEmpty then ended else ended ++ [rest]).map String.ofList

/-- Whether `part` occurs somewhere in a text. -/
def occursIn (part : List Char) : List Char → Bool
  | [] => part.isEmpty
  | c :: rest => part.isPrefixOf (c :: rest) || occursIn part rest

/-- Whether `part` occurs somewhere in `text`. -/
def contains (text part : String) : Bool := occursIn part.toList text.toList

end Gatehouse.Text
