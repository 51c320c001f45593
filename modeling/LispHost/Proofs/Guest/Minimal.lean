import LispHost.Guest

/-!
Guests with as little as the host asks for.

A host looks up three accessors and two sentinels in every guest. These accessors answer the same for every
word, so what a guest does besides is in the exports that are added to them.
-/

set_option autoImplicit false

namespace LispHost.Guest

/-- A function of so many words that answers the same word every time. -/
def constant (arity : Nat) (word : Word) : Func Unit :=
  ⟨List.replicate arity .i32, [.i32], fun _ => .done [word.toUInt64]⟩

/-- Accessors that give every word the same tag code and the same addresses of its row and of its record. -/
def accessors (code row record : Word) : List (String × Export Unit) :=
  [("wisp_tag_of", .func (constant 1 code)), ("wisp_row", .func (constant 2 row)),
    ("wisp_str", .func (constant 1 record))]

def sentinels : List (String × Export Unit) :=
  [("wisp_sys_nil", .global (.i32 0)), ("wisp_sys_t", .global (.i32 1))]

/-- A guest with one page of memory, which it exports, and with these exports besides. -/
def exporting (exports : List (String × Export Unit)) : Guest Unit where
  pages := 1
  maxPages := none
  table := 0
  maxTable := none
  data := []
  globals := ()
  start := none
  exports := ("memory", .memory) :: exports
  linkable := true

end LispHost.Guest
