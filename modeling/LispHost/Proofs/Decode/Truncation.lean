import LispHost.Proofs.Decode.Detection

/-!
Decodes of one word within two bounds, on heaps that always give the same answers.

The decode within the smaller bound asks what the other one asks as long as it has levels left, and
where it has none it asks nothing. So it succeeds where the other one does, and shows the same tree with
everything below its bound elided. Cycles are cut at the same places, as both have the same pairs above
each position.
-/

set_option autoImplicit false

namespace LispHost

/-- The second projection is the first one with so many levels left of it. What lies below them is
elided, with the word that the rows of the heap lead to at that position; every other node is kept. -/
inductive Truncated (heap : HeapReader Unit) : Nat → Word → Projection → Projection → Prop
  | elided (raw : Word) (whole : Projection) : Truncated heap 0 raw whole (.elided raw)
  | leaf {levels : Nat} (raw : Word) {leaf : Projection} :
      (∀ car cdr, leaf ≠ .duo car cdr) → Truncated heap (levels + 1) raw leaf leaf
  | duo {levels : Nat} {raw car cdr : Word} {first second short_first short_second : Projection} :
      heap.askParts raw () = (.ok (car, cdr), ()) →
      Truncated heap levels car first short_first →
      Truncated heap levels cdr second short_second →
      Truncated heap (levels + 1) raw (.duo first second) (.duo short_first short_second)

namespace HeapReader

variable {heap : HeapReader Unit} {detectCycles : Bool}

theorem Surveyed.exists_truncated {levels : Nat} {path : List Word} {raw : Word} {state next : Unit}
    {found : Survey} (rules : Surveyed heap detectCycles levels path raw state found next) :
    ∀ fewer ≤ levels, ∃ part, Surveyed heap detectCycles fewer path raw () part () ∧
      Truncated heap fewer raw found.shown part.shown := by
  induction rules with
  | elided path raw state =>
    intro fewer fewer_le
    obtain rfl : fewer = 0 := Nat.le_zero.mp fewer_le
    exact ⟨_, .elided path raw (), .elided raw _⟩
  | @leaf levels path raw _ _ found leaf =>
    intro fewer fewer_le
    cases fewer with
    | zero => exact ⟨_, .elided path raw (), .elided raw _⟩
    | succ fewer =>
      refine ⟨found, .leaf path leaf, .leaf raw ?_⟩
      cases leaf <;> simp [Survey.shown]
  | @cycle levels path raw _ _ asked repeated =>
    intro fewer fewer_le
    cases fewer with
    | zero => exact ⟨_, .elided path raw (), .elided raw _⟩
    | succ fewer => exact ⟨_, .cycle asked repeated, .leaf raw (by simp [Survey.shown])⟩
  | @duo levels path raw car cdr first second _ _ _ _ _ asked fresh parted _ _ car_ih cdr_ih =>
    intro fewer fewer_le
    cases fewer with
    | zero => exact ⟨_, .elided path raw (), .elided raw _⟩
    | succ fewer =>
      have room : fewer ≤ levels := Nat.le_of_succ_le_succ fewer_le
      obtain ⟨short_first, car_rules, first_short⟩ := car_ih fewer room
      obtain ⟨short_second, cdr_rules, second_short⟩ := cdr_ih fewer room
      exact ⟨_, .duo asked fresh parted car_rules cdr_rules, .duo parted first_short second_short⟩

end HeapReader

/-- On a heap whose answers are fixed, let one bound be at most another after both are pulled down to
the ceiling. Where the decode within the larger bound succeeds, so does the one within the smaller
bound, and it shows the same tree with every node one level below its bound replaced by its elided
word. Where the one within the smaller bound fails, so does the other. -/
theorem decode_truncated (tagOf : Word → Except Error Tag) (row : Tag → Word → Except Error Row)
    (string : Word → Except Error String) (sentinels : Sentinels) (detectCycles : Bool) (raw : Word)
    {fewer more : Nat}
    (le : min fewer DecodeOptions.depthCeiling ≤ min more DecodeOptions.depthCeiling) :
    (∀ whole,
      (Projection.decode (.fixed tagOf row string sentinels) ⟨more, detectCycles⟩ raw ()).1 =
        .ok whole →
      ∃ short,
        (Projection.decode (.fixed tagOf row string sentinels) ⟨fewer, detectCycles⟩ raw ()).1 =
          .ok short ∧
        Truncated (.fixed tagOf row string sentinels)
          (min fewer DecodeOptions.depthCeiling + 1) raw whole short) ∧
    ((∃ e, (Projection.decode (.fixed tagOf row string sentinels) ⟨fewer, detectCycles⟩ raw ()).1 =
        .error e) →
      ∃ e, (Projection.decode (.fixed tagOf row string sentinels) ⟨more, detectCycles⟩ raw ()).1 =
        .error e) := by
  have shortened : ∀ whole,
      (Projection.decode (.fixed tagOf row string sentinels) ⟨more, detectCycles⟩ raw ()).1 =
        .ok whole →
      ∃ short,
        (Projection.decode (.fixed tagOf row string sentinels) ⟨fewer, detectCycles⟩ raw ()).1 =
          .ok short ∧
        Truncated (.fixed tagOf row string sentinels)
          (min fewer DecodeOptions.depthCeiling + 1) raw whole short := by
    intro whole ok
    obtain ⟨found, rules, rfl⟩ := HeapReader.decode_eq_ok_iff.mp ok
    have room : min fewer DecodeOptions.depthCeiling + 1 ≤
        min more DecodeOptions.depthCeiling + 1 := Nat.succ_le_succ le
    obtain ⟨part, part_rules, short⟩ := rules.exists_truncated _ room
    exact ⟨part.shown, HeapReader.decode_eq_ok_iff.mpr ⟨part, part_rules, rfl⟩, short⟩
  refine ⟨shortened, ?_⟩
  rintro ⟨e, failed⟩
  cases answer :
      (Projection.decode (.fixed tagOf row string sentinels) ⟨more, detectCycles⟩ raw ()).1 with
  | error e' => exact ⟨e', rfl⟩
  | ok whole =>
    obtain ⟨short, ok, -⟩ := shortened whole answer
    cases failed.symm.trans ok

/-- A pair whose second part is itself, two levels deep and one level deep, without detection. -/
theorem decode_truncated_ownTail :
    min 1 DecodeOptions.depthCeiling ≤ min 2 DecodeOptions.depthCeiling ∧
    ∃ short,
      (Projection.decode (.fixed (fun raw => .ok (if raw = 1 then .int else .duo))
        (fun tag raw => .ok ⟨tag, [1, raw]⟩) (fun _ => .ok "") ⟨0, 0⟩) ⟨1, false⟩ 2 ()).1 =
          .ok short ∧
      Truncated (.fixed (fun raw => .ok (if raw = 1 then .int else .duo))
        (fun tag raw => .ok ⟨tag, [1, raw]⟩) (fun _ => .ok "") ⟨0, 0⟩) 2 2
        (.duo (.int 1) (.duo (.int 1) (.duo (.elided 1) (.elided 2)))) short ∧
      short = .duo (.int 1) (.duo (.elided 1) (.elided 2)) := by
  have le : min 1 DecodeOptions.depthCeiling ≤ min 2 DecodeOptions.depthCeiling := by decide
  obtain ⟨short, ok, truncated⟩ := (decode_truncated
    (fun raw => .ok (if raw = 1 then .int else .duo)) (fun tag raw => .ok ⟨tag, [1, raw]⟩)
    (fun _ => .ok "") ⟨0, 0⟩ false 2 le).1 _ rfl
  refine ⟨le, short, ok, truncated, ?_⟩
  cases ok
  rfl

end LispHost
