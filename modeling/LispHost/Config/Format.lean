/-!
The formats in which settings may be written, and how a path names one.

The format is the extension of the last component of a path, in any case. A component without a point,
or with its only point at the front, has no extension.
-/

set_option autoImplicit false

namespace LispHost.Config

inductive Format where
  | yaml
  | toml
  | json
  | ini
  | ron
  | json5
  deriving DecidableEq, Repr

namespace Format

def ofExtension? : String → Option Format
  | "yaml" => some yaml
  | "yml" => some yaml
  | "toml" => some toml
  | "json" => some json
  | "ini" => some ini
  | "ron" => some ron
  | "json5" => some json5
  | _ => none

end Format

/-- The components of a path, from the last one on, without empty ones and those that name the place
reached so far. -/
def components (path : List Char) : List (List Char) :=
  (split path).reverse.filter fun part => !part.isEmpty && part ≠ ['.']
where
  split : List Char → List (List Char)
    | [] => [[]]
    | c :: rest =>
      if c = '/' then [] :: split rest
      else match split rest with
        | part :: parts => (c :: part) :: parts
        | [] => [[c]]

/-- The last component of a path; none if the path ends by going up, or is empty. -/
def fileName? (path : String) : Option (List Char) :=
  match components path.toList with
  | [] => none
  | name :: _ => if name = ['.', '.'] then none else some name

/-- What follows the last point of a file name, unless that point is the first character. -/
def extensionOf? (name : List Char) : Option (List Char) :=
  let after := name.reverse.takeWhile (· ≠ '.')
  let before := name.take (name.length - after.length - 1)
  if before.isEmpty then none else some after.reverse

def extension? (path : String) : Option String :=
  (fileName? path >>= extensionOf?).map String.ofList

def lowerAscii (s : String) : String :=
  String.ofList (s.toList.map Char.toLower)

inductive FormatError where
  | noExtension
  | unsupported (ext : String)
  deriving DecidableEq, Repr

def Format.ofPath (path : String) : Except FormatError Format :=
  match extension? path with
  | none => .error .noExtension
  | some ext =>
    match ofExtension? (lowerAscii ext) with
    | some format => .ok format
    | none => .error (.unsupported (lowerAscii ext))

end LispHost.Config
