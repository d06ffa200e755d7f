import Gatehouse.Text.Blank
/-!
# Request targets

What a request asks for: mostly a path with an optional query.  In front of it there may be a scheme
and an authority, and an authority may also stand alone.  A fragment is dropped.
-/

namespace Gatehouse.Http

/-- The target of a request. -/
structure Target where
  /-- The scheme and the authority in front, or nothing. -/
  origin : String
  /-- The path and the query, which only a lone authority lacks. -/
  resource : Option String
deriving DecidableEq, Repr, Inhabited

namespace Target

/-- The path, which is a slash where nothing stands before the query. -/
def path (target : Target) : String :=
  match target.resource with
  | none => ""
  | some resource =>
      let path := resource.toList.takeWhile (· ≠ '?')
      if path.isEmpty then "/" else String.ofList path

/-- The question mark and the query after it, if there is one. -/
def query (target : Target) : String :=
  match target.resource with
  | none => ""
  | some resource => String.ofList (resource.toList.dropWhile (· ≠ '?'))

/-- The target for a text without a fragment that has no scheme. -/
def ofLocal (text : List Char) : Target :=
  match text with
  | '/' :: _ => ⟨"", some (String.ofList text)⟩
  | '?' :: _ => ⟨"", some (String.ofList text)⟩
  | ['*'] => ⟨"", some "*"⟩
  | _ => ⟨String.ofList text, none⟩

/-- The text up to the end of the marks after a scheme, and the text from there. -/
def afterScheme? : List Char → Option (List Char × List Char)
  | ':' :: '/' :: '/' :: rest => some ([':', '/', '/'], rest)
  | c :: rest =>
      if c = '/' || c = '?' then none
      else (afterScheme? rest).map fun parts => (c :: parts.1, parts.2)
  | [] => none

/-- The target with the given text. -/
def parse (text : String) : Target :=
  let text := text.toList.takeWhile (· ≠ '#')
  match afterScheme? text with
  | none => ofLocal text
  | some (scheme, rest) =>
      let isAuthority := fun c => c ≠ '/' && c ≠ '?'
      let resource := rest.dropWhile isAuthority
      ⟨String.ofList (scheme ++ rest.takeWhile isAuthority),
        some (if resource.isEmpty then "/" else String.ofList resource)⟩

/-- The text of the same target with a slash at the end of its path. -/
def withSlash (target : Target) : String :=
  target.origin ++ target.path ++ "/" ++ target.query

end Target

end Gatehouse.Http
