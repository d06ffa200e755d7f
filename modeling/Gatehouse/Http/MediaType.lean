import Gatehouse.Http.Headers
import Gatehouse.Text.Blank
/-!
# Media types

The kind of content that a message says it holds: two names with a slash between them, where the
second may end in a suffix after a plus sign, and parameters after semicolons.
-/

namespace Gatehouse.Http.MediaType

/-! ## Reading -/

/-- Whether a character may stand in a name. -/
def isNameChar (c : Char) : Bool :=
  c.isAlphanum || ['!', '#', '$', '%', '&', '\'', '+', '-', '.', '^', '_', '`', '|', '~'].contains c

/-- What comes after a quoted value: the next parameter, if there is one. -/
def afterQuoted? : List Char → Option (List Char)
  | [] => some []
  | ';' :: rest => some rest
  | ' ' :: rest => afterQuoted? rest
  | _ :: _ => none

/-- What comes after the rest of a quoted value.  The first character belongs to the value, whatever
it is, and each but the control characters may stand in it. -/
def quoted? (isFirst : Bool) : List Char → Option (List Char)
  | [] => none
  | c :: rest =>
      if c = '"' && !isFirst then afterQuoted? rest
      else if 31 < c.toNat && c.toNat ≠ 127 then quoted? false rest
      else none

/-- What comes after the value of a parameter. -/
def value? (text : List Char) : Option (List Char) :=
  match text with
  | '"' :: rest => quoted? true rest
  | _ =>
      match text.dropWhile isNameChar with
      | [] => some []
      | ';' :: rest => if (text.takeWhile isNameChar).isEmpty then none else some rest
      | _ => none

/-- Whether a text holds parameters and nothing else.  `room` is at least its length. -/
def areParameters (room : Nat) (text : List Char) : Bool :=
  match room with
  | 0 => text.isEmpty
  | room + 1 =>
      match text with
      | [] => true
      | ' ' :: rest => areParameters room rest
      | _ =>
          match text.dropWhile isNameChar with
          | '=' :: rest =>
              !(text.takeWhile isNameChar).isEmpty &&
                match value? rest with
                | some rest => areParameters room rest
                | none => false
          | _ => false

/-- A media type without its parameters, in lower case. -/
structure Name where
  type : String
  subtype : String
  suffix : Option String
deriving DecidableEq, Repr

/-- A second name with its suffix, which starts at the last plus sign that is not in front. -/
def splitSuffix (text : List Char) : List Char × Option (List Char) :=
  match Text.cut? '+' text.reverse with
  | some (suffix, rest) =>
      if rest.isEmpty then (text, none) else (rest.reverse, some suffix.reverse)
  | none => (text, none)

/-- The media type that a text says. -/
def parse? (text : String) : Option Name :=
  let text := (Text.toLowerAscii text).toList
  let type := text.takeWhile isNameChar
  match text.dropWhile isNameChar with
  | '/' :: rest =>
      let subtype := rest.takeWhile isNameChar
      let sound := match rest.dropWhile isNameChar with
        | [] => true
        | ';' :: parameters => !subtype.isEmpty && areParameters parameters.length parameters
        | _ => false
      if type.isEmpty || !sound then none
      else
        let (name, suffix) := splitSuffix subtype
        some ⟨String.ofList type, String.ofList name, suffix.map String.ofList⟩
  | _ => none

/-! ## What a request says about its body -/

/-- Whether the body is said to be a JSON document. -/
def isJson (headers : Headers) : Bool :=
  match (headers.text? "content-type").bind parse? with
  | some name => name.type = "application" && (name.subtype = "json" || name.suffix = some "json")
  | none => false

/-- The media type of forms. -/
def formType : String := "application/x-www-form-urlencoded"

/-- Whether the body is said to be a form. -/
def isForm (headers : Headers) : Bool :=
  match headers.text? "content-type" with
  | some text => formType.toList.isPrefixOf text.toList
  | none => false

/-! ## Files -/

/-- The media type of a file whose name does not tell it. -/
def unknown : String := "application/octet-stream"

/-- The media types of files by the extensions of their names. -/
def byExtension : List (String × String) := [
  ("avif", "image/avif"), ("bmp", "image/bmp"), ("css", "text/css"), ("csv", "text/csv"),
  ("gif", "image/gif"), ("gz", "application/gzip"), ("htm", "text/html"), ("html", "text/html"),
  ("ico", "image/x-icon"), ("jpeg", "image/jpeg"), ("jpg", "image/jpeg"),
  ("js", "text/javascript"), ("json", "application/json"), ("md", "text/markdown"),
  ("mjs", "text/javascript"), ("mp3", "audio/mpeg"), ("mp4", "video/mp4"),
  ("otf", "font/otf"), ("pdf", "application/pdf"), ("png", "image/png"),
  ("svg", "image/svg+xml"), ("tar", "application/x-tar"), ("ttf", "font/ttf"),
  ("txt", "text/plain"), ("wasm", "application/wasm"), ("wav", "audio/wav"),
  ("webm", "video/webm"), ("webp", "image/webp"), ("woff", "application/font-woff"),
  ("woff2", "font/woff2"), ("xhtml", "application/xhtml+xml"), ("xml", "text/xml"),
  ("zip", "application/zip")]

/-- The extension of a name: what comes after its last dot, unless that is in front. -/
def extension? (name : String) : Option String :=
  match Text.cut? '.' name.toList.reverse with
  | some (extension, rest) =>
      if rest.isEmpty then none else some (String.ofList extension.reverse)
  | none => none

/-- The media type of a file with the given name. -/
def ofName (name : String) : String :=
  let known := (extension? name).bind fun extension =>
    byExtension.lookup (Text.toLowerAscii extension)
  known.getD unknown

end Gatehouse.Http.MediaType
