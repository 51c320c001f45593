import LispHost.Config.Yaml.Node

/-!
Reading YAML.

A text holds at most one document, which is a table. It ends with the first null character.
-/

set_option autoImplicit false

namespace LispHost.Config.Yaml

/-- A text with every line break written the same way, up to its end. -/
def plainBreaks : List Char → List Char
  | [] => []
  | '\x0d' :: '\n' :: rest => '\n' :: plainBreaks rest
  | '\x0d' :: rest => '\n' :: plainBreaks rest
  | '\x00' :: _ => []
  | c :: rest => c :: plainBreaks rest

def parse? (text : String) : Option (List (String × Tree)) := do
  match ← Node.ofChars? (plainBreaks text.toList) with
  | none => return []
  | some node =>
    match ← node.tree? with
    | .table fields => return fields
    | _ => failure

end LispHost.Config.Yaml
