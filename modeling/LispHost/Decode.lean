import LispHost.Heap
import LispHost.Projection

/-!
Decoding: from a guest word to its projection.

The heap is untrusted, so decoding is bounded. A value nested deeper than the bound becomes an elided
leaf without any call, and with cycle detection on a pair that is its own ancestor becomes a cycle
leaf. The set of ancestors is threaded through the traversal: a pair enters it before its row is read
and leaves it when both its parts are done, so a pair shared between siblings is expanded each time.
-/

set_option autoImplicit false

namespace LispHost

structure DecodeOptions where
  /-- The deepest nesting level that is still expanded; the root is level 0. -/
  maxDepth : Nat
  /-- Whether a pair that repeats an ancestor becomes a cycle leaf. -/
  detectCycles : Bool
  deriving DecidableEq, Repr

namespace DecodeOptions

def depthCeiling : Nat := 2048

def default : DecodeOptions :=
  ⟨1024, true⟩

/-- The options with the depth bound pulled down to the ceiling. -/
def clamped (options : DecodeOptions) : DecodeOptions :=
  { options with maxDepth := min options.maxDepth depthCeiling }

def withMaxDepth (options : DecodeOptions) (maxDepth : Nat) : DecodeOptions :=
  { options with maxDepth }.clamped

def withCycleDetection (options : DecodeOptions) (detectCycles : Bool) : DecodeOptions :=
  { options with detectCycles }

end DecodeOptions

namespace Projection

variable {σ : Type}

/-- The leaf of a symbol whose string accessor gave this answer. -/
def ofName (raw : Word) : Except Error String → Except Error Projection
  | .ok name => .ok (.sym name)
  | .error (.encoding _ len) => .ok (.undecodable raw len)
  | .error e => .error e

def ofSystem (sentinels : Sentinels) (raw : Word) : Projection :=
  if raw = sentinels.nil then .nil
  else if raw = sentinels.t then .true
  else .unknown .sys raw

/-- Decode a word that may open `levels` more levels, below the pairs in `ancestors`. -/
def decodeAt (heap : HeapReader σ) (detectCycles : Bool) :
    Nat → Word → List Word → σ → Except Error (Projection × List Word) × σ
  | 0, raw, ancestors, state => (.ok (.elided raw, ancestors), state)
  | levels + 1, raw, ancestors, state =>
    match heap.tagOf raw state with
    | (.error e, state) => (.error e, state)
    | (.ok .int, state) => (.ok (.int raw, ancestors), state)
    | (.ok .sys, state) => (.ok (ofSystem (heap.sentinels state) raw, ancestors), state)
    | (.ok (.unknown code), state) => (.ok (.unknown (.unknown code) raw, ancestors), state)
    | (.ok .sym, state) =>
      match heap.row .sym raw state with
      | (.error e, state) => (.error e, state)
      | (.ok row, state) =>
        match row.sym with
        | .error e => (.error e, state)
        | .ok handle =>
          let (name, state) := heap.string handle state
          ((ofName raw name).map fun leaf => (leaf, ancestors), state)
    | (.ok .duo, state) =>
      if detectCycles && ancestors.contains raw then (.ok (.cycle raw, ancestors), state)
      else
        let within := if detectCycles then raw :: ancestors else ancestors
        match heap.row .duo raw state with
        | (.error e, state) => (.error e, state)
        | (.ok row, state) =>
          match row.duo with
          | .error e => (.error e, state)
          | .ok (car, cdr) =>
            match decodeAt heap detectCycles levels car within state with
            | (.error e, state) => (.error e, state)
            | (.ok (car, within), state) =>
              match decodeAt heap detectCycles levels cdr within state with
              | (.error e, state) => (.error e, state)
              | (.ok (cdr, within), state) => (.ok (.duo car cdr, within.erase raw), state)

def decode (heap : HeapReader σ) (options : DecodeOptions) (raw : Word) (state : σ) :
    Except Error Projection × σ :=
  let (answer, state) :=
    decodeAt heap options.detectCycles (options.clamped.maxDepth + 1) raw [] state
  (answer.map Prod.fst, state)

end Projection

end LispHost
