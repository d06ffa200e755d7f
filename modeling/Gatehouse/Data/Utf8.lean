/-!
# UTF-8

Texts are stored and sent as bytes.  `decode` reads bytes as UTF-8 and keeps a place for each
stretch that is none, so that its callers may refuse such bytes, replace each stretch by the
replacement character, or skip over it.  A stretch is the longest start of a character that the
bytes still allow, or a single byte.
-/

namespace Gatehouse

/-- A row of bytes. -/
abbrev Bytes := List UInt8

namespace Utf8

/-- The bytes of a text. -/
def encode (text : String) : Bytes := text.toList.flatMap String.utf8EncodeChar

/-- The value of the six low bits of a continuation byte. -/
def tail (b : UInt8) : Nat := b.toNat - 0x80

/-- Whether a byte lies in a range. -/
def within (low high : Nat) (b : UInt8) : Bool := low ≤ b.toNat && b.toNat ≤ high

/-- Whether a byte continues a character. -/
def isTail (b : UInt8) : Bool := within 0x80 0xBF b

/-- The range in which the second byte of a character of three bytes has to lie. -/
def second3 (first : UInt8) : Nat × Nat :=
  if first = 0xE0 then (0xA0, 0xBF) else if first = 0xED then (0x80, 0x9F) else (0x80, 0xBF)

/-- The range in which the second byte of a character of four bytes has to lie. -/
def second4 (first : UInt8) : Nat × Nat :=
  if first = 0xF0 then (0x90, 0xBF) else if first = 0xF4 then (0x80, 0x8F) else (0x80, 0xBF)

/-- The first character of some bytes, or `none` when they start with no character, and how many
bytes after the first belong to it. -/
def first (b : UInt8) (rest : Bytes) : Option Char × Nat :=
  if b < 0x80 then (some (Char.ofNat b.toNat), 0)
  else if within 0xC2 0xDF b then
    match rest with
    | c :: _ =>
        if isTail c then (some (Char.ofNat ((b.toNat - 0xC0) * 64 + tail c)), 1) else (none, 0)
    | [] => (none, 0)
  else if within 0xE0 0xEF b then
    match rest with
    | c :: more =>
        if within (second3 b).1 (second3 b).2 c then
          match more with
          | d :: _ =>
              if isTail d then
                (some (Char.ofNat ((b.toNat - 0xE0) * 4096 + tail c * 64 + tail d)), 2)
              else (none, 1)
          | [] => (none, 1)
        else (none, 0)
    | [] => (none, 0)
  else if within 0xF0 0xF4 b then
    match rest with
    | c :: more =>
        if within (second4 b).1 (second4 b).2 c then
          match more with
          | d :: most =>
              if isTail d then
                match most with
                | e :: _ =>
                    if isTail e then
                      (some (Char.ofNat ((b.toNat - 0xF0) * 262144 + tail c * 4096 +
                        tail d * 64 + tail e)), 3)
                    else (none, 2)
                | [] => (none, 2)
              else (none, 1)
          | [] => (none, 1)
        else (none, 0)
    | [] => (none, 0)
  else (none, 0)

/-- The characters of some bytes, with `none` for each stretch that belongs to no character. -/
def decode : Bytes → List (Option Char)
  | [] => []
  | b :: rest =>
      (first b rest).1 :: decode (rest.drop (first b rest).2)
termination_by bytes => bytes.length
decreasing_by simp only [List.length_drop, List.length_cons]; omega

/-- The text of some bytes, if all of them are UTF-8. -/
def text? (bytes : Bytes) : Option String :=
  ((decode bytes).mapM id).map String.ofList

/-- The text of some bytes, with the replacement character for what is no UTF-8. -/
def lossyText (bytes : Bytes) : String :=
  String.ofList ((decode bytes).map fun symbol => symbol.getD '\uFFFD')

end Utf8

end Gatehouse
