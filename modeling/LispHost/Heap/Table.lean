import LispHost.Heap

/-!
Heaps given by tables.

A table lists the answers that differ from the usual ones. Usually the top four bits of a word select
its variant, a symbol's handle is the rest of the word, and no pair or string is there.
-/

set_option autoImplicit false

namespace LispHost

structure HeapTable where
  tags : List (Word × Except Error Tag)
  rows : List (Word × (Tag → Except Error Row))
  strings : List (Word × Except Error String)
  sentinels : Sentinels

namespace HeapTable

def usualSentinels : Sentinels :=
  ⟨0x20000000, 0x20000001⟩

/-- The variant selected by the top four bits of a word. -/
def usualTag (value : Word) : Tag :=
  match (value >>> 28).toNat with
  | 0 => .int
  | 2 => .sys
  | 3 => .duo
  | 4 => .sym
  | _ => .unknown (value >>> 28)

def usualRow (tag : Tag) (value : Word) : Except Error Row :=
  match tag with
  | .sym => .ok ⟨tag, [value &&& 0x0fffffff]⟩
  | _ => .error (.memoryFault value 8 0)

def reader (table : HeapTable) : HeapReader Unit :=
  .fixed
    (fun value => (table.tags.lookup value).getD (.ok (usualTag value)))
    (fun tag value =>
      match table.rows.lookup value with
      | some row => row tag
      | none => usualRow tag value)
    (fun handle => (table.strings.lookup handle).getD (.error (.memoryFault handle 4 0)))
    table.sentinels

end HeapTable

end LispHost
