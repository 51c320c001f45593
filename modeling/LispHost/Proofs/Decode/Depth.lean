import LispHost.Proofs.Decode.Ancestors
import LispHost.Proofs.Decode.Transcript
import Mathlib.Algebra.Group.Nat.Defs

/-!
The depth of decodes.

Whatever the heap answers, a decode within a bound opens no level beyond it: the nodes one level below
the bound are elided, all of them and no others, and nothing lies deeper. So its calls are nested no
deeper than that, and there are at most three accessor calls for each node of a full tree.
-/

set_option autoImplicit false

namespace LispHost

variable {σ : Type}

inductive Side where
  | car | cdr
  deriving DecidableEq, Repr

namespace Projection

def node? : Projection → List Side → Option Projection
  | node, [] => some node
  | duo car _, .car :: rest => car.node? rest
  | duo _ cdr, .cdr :: rest => cdr.node? rest
  | _, _ :: _ => none

/-- Elided at a level: nothing lies deeper, and what lies there is elided and nothing else is. -/
structure ElidedAt (shown : Projection) (level : Nat) : Prop where
  depth_le : shown.depth ≤ level
  elided_iff (way : List Side) (node : Projection) : shown.node? way = some node →
    ((∃ raw, node = .elided raw) ↔ way.length = level)

theorem eq_of_leaf_node? {leaf node : Projection} (single : ∀ car cdr, leaf ≠ .duo car cdr)
    {way : List Side} (at_way : leaf.node? way = some node) : way = [] ∧ leaf = node := by
  cases way with
  | nil => simpa [node?] using at_way
  | cons side rest =>
    cases leaf with
    | duo car cdr => exact absurd rfl (single car cdr)
    | _ => simp [node?] at at_way

theorem ElidedAt.elided (raw : Word) : (elided raw).ElidedAt 0 where
  depth_le := Nat.le_refl 0
  elided_iff way node at_way := by
    obtain ⟨rfl, rfl⟩ := eq_of_leaf_node? (by simp) at_way
    simp

theorem ElidedAt.leaf {leaf : Projection} (single : ∀ car cdr, leaf ≠ .duo car cdr)
    (kept : ∀ raw, leaf ≠ .elided raw) (levels : Nat) : leaf.ElidedAt (levels + 1) where
  depth_le := by
    cases leaf with
    | duo car cdr => exact absurd rfl (single car cdr)
    | _ => exact Nat.zero_le _
  elided_iff way node at_way := by
    obtain ⟨rfl, rfl⟩ := eq_of_leaf_node? single at_way
    simp [kept]

theorem ElidedAt.duo {car cdr : Projection} {levels : Nat} (first : car.ElidedAt levels)
    (second : cdr.ElidedAt levels) : (duo car cdr).ElidedAt (levels + 1) where
  depth_le := by
    have first_le := first.depth_le
    have second_le := second.depth_le
    simp only [depth]
    omega
  elided_iff way node at_way := by
    cases way with
    | nil =>
      obtain rfl : Projection.duo car cdr = node := by simpa [node?] using at_way
      simp
    | cons side rest =>
      rw [List.length_cons, Nat.add_right_cancel_iff]
      cases side with
      | car => exact first.elided_iff rest node at_way
      | cdr => exact second.elided_iff rest node at_way

end Projection

theorem Reads.elidedAt {levels : Nat} {raw : Word} {shown : Projection} {events : List HeapEvent}
    (reads : Reads levels raw shown events) : shown.ElidedAt levels := by
  induction reads with
  | elided raw => exact .elided raw
  | duo raw parted _ _ first second => exact first.duo second
  | _ => exact .leaf (by simp) (by simp) _

private theorem three_mul_two_pow_succ (levels : Nat) :
    3 * 2 ^ (levels + 1) = 3 * 2 ^ levels + 3 * 2 ^ levels ∧ 3 ≤ 3 * 2 ^ levels := by
  have positive : 1 ≤ 2 ^ levels := Nat.one_le_two_pow
  rw [Nat.pow_succ]
  omega

/-- Three calls are enough for a node, and a tree of so many levels has fewer nodes than two to the
power of their number. -/
theorem Reads.length_le {levels : Nat} {raw : Word} {shown : Projection} {events : List HeapEvent}
    (reads : Reads levels raw shown events) : events.length + 3 ≤ 3 * 2 ^ levels := by
  induction reads with
  | elided raw => exact Nat.le_refl 3
  | @duo levels raw _ _ _ _ _ calls more _ _ _ first second =>
    have room := three_mul_two_pow_succ levels
    simp only [List.length_cons, List.length_append]
    omega
  | @int levels | @nil levels | @true levels | @stray levels | @unknown levels | @cycle levels
  | @sym levels | @undecodable levels =>
    have room := three_mul_two_pow_succ levels
    simp only [List.length_cons, List.length_nil]
    omega

theorem Aborts.length_le {levels : Nat} {raw : Word} {e : Error} {events : List HeapEvent}
    (aborts : Aborts levels raw e events) : events.length + 3 ≤ 3 * 2 ^ levels := by
  induction aborts with
  | @tagOf levels | @row levels | @misfit levels | @string levels =>
    have room := three_mul_two_pow_succ levels
    simp only [List.length_cons, List.length_nil]
    omega
  | @car levels raw _ _ _ _ calls _ _ first =>
    have room := three_mul_two_pow_succ levels
    simp only [List.length_cons]
    omega
  | @cdr levels raw _ _ _ _ _ calls more _ reads _ second =>
    have room := three_mul_two_pow_succ levels
    have first := reads.length_le
    simp only [List.length_cons, List.length_append]
    omega

namespace Projection

theorem elidedAt_of_decode {heap : HeapReader σ} {options : DecodeOptions} {raw : Word} {state : σ}
    {shown : Projection} (ok : (decode heap options raw state).1 = .ok shown) :
    shown.ElidedAt (min options.maxDepth DecodeOptions.depthCeiling + 1) := by
  obtain ⟨events, -, -, reads, -⟩ := heap.exists_transcript options raw state
  exact (reads shown ok).elidedAt

/-- A decode makes at most three accessor calls for each node of a full tree, however it ends. -/
theorem length_calls_le (heap : HeapReader σ) (options : DecodeOptions) (raw : Word) (state : σ) :
    (decode heap.recorded options raw (state, [])).2.2.length + 3 ≤
      3 * 2 ^ (min options.maxDepth DecodeOptions.depthCeiling + 1) := by
  obtain ⟨events, -, recorded, reads, aborts⟩ := heap.exists_transcript options raw state
  rw [recorded, List.length_reverse, List.length_map]
  cases answer : (decode heap options raw state).1 with
  | ok shown => exact (reads shown answer).length_le
  | error e => exact (aborts e answer).length_le

end Projection

/-- The calls of a decode are nested one for each level that they have used up. -/
theorem DecodeCall.Reached.length_add_levels {heap : HeapReader σ} {detectCycles : Bool}
    {root call : DecodeCall σ} {path : List Word}
    (reached : Reached heap detectCycles root path call) :
    path.length + call.levels = root.levels := by
  induction reached with
  | root => exact Nat.zero_add _
  | car _ _ _ _ ih | cdr _ _ _ _ _ ih =>
    simp only [List.length_cons] at ih ⊢
    omega

end LispHost
