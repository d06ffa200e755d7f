import Gatehouse.Data.Percent
/-!
# Form texts

The entries of a form in one line: names and values with equals signs between them, and ampersands
between the entries.  A plus sign stands for a blank.
-/

namespace Gatehouse.Http.FormText

/-- The stretches of a row of bytes between the occurrences of a separator. -/
def split (separator : UInt8) : Bytes → List Bytes
  | [] => [[]]
  | b :: rest =>
      if b = separator then [] :: split separator rest
      else
        match split separator rest with
        | [] => [[b]]
        | first :: others => (b :: first) :: others

/-- The text of a name or a value. -/
def text (bytes : Bytes) : String :=
  Utf8.lossyText (Percent.decode (bytes.map fun b => if b = 43 then 32 else b))

/-- The name and the value of an entry.  Without an equals sign all of it is the name. -/
def entry (bytes : Bytes) : String × String :=
  (text (bytes.takeWhile (· ≠ 61)), text ((bytes.dropWhile (· ≠ 61)).drop 1))

/-- The entries of a form. -/
def entries (bytes : Bytes) : List (String × String) :=
  ((split 38 bytes).filter fun stretch => !stretch.isEmpty).map entry

end Gatehouse.Http.FormText
