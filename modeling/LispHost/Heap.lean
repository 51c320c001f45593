import LispHost.Row

/-!
Heaps as the decoder sees them: three accessors and two sentinels.

An accessor may fail, and its answer may depend on the calls made before, so each of them threads a
state. A recorded heap keeps the calls that were made.
-/

set_option autoImplicit false

namespace LispHost

structure Sentinels where
  nil : Word
  t : Word
  deriving DecidableEq, Repr

structure HeapReader (σ : Type) where
  tagOf : Word → σ → Except Error Tag × σ
  row : Tag → Word → σ → Except Error Row × σ
  string : Word → σ → Except Error String × σ
  sentinels : σ → Sentinels

inductive HeapCall where
  | tagOf (value : Word)
  | row (tag : Tag) (value : Word)
  | string (handle : Word)
  deriving DecidableEq, Repr

namespace HeapReader

def fixed (tagOf : Word → Except Error Tag) (row : Tag → Word → Except Error Row)
    (string : Word → Except Error String) (sentinels : Sentinels) : HeapReader Unit where
  tagOf value _ := (tagOf value, ())
  row tag value _ := (row tag value, ())
  string handle _ := (string handle, ())
  sentinels _ := sentinels

/-- The heap together with the list of calls made, latest first. -/
def recorded {σ : Type} (heap : HeapReader σ) : HeapReader (σ × List HeapCall) where
  tagOf value state :=
    let (answer, next) := heap.tagOf value state.1
    (answer, next, .tagOf value :: state.2)
  row tag value state :=
    let (answer, next) := heap.row tag value state.1
    (answer, next, .row tag value :: state.2)
  string handle state :=
    let (answer, next) := heap.string handle state.1
    (answer, next, .string handle :: state.2)
  sentinels state := heap.sentinels state.1

end HeapReader

end LispHost
