import LispHost.Proofs.Decode.Rules
import Mathlib.Logic.Basic

/-!
Cycle detection on heaps that always give the same answers.

Detection cuts the decode at a pair that repeats a pair above it, so the decode no longer visits what
lies below. Nothing is lost by that: whatever a decode without detection finds below the repeated
pair, it also finds, with more levels to spare, below the first one. So the two decodes fail on the
same heaps, and where they succeed they differ only in the cuts.
-/

set_option autoImplicit false

namespace LispHost

namespace Survey

/-- The survey cut at the pairs that repeat a pair of the path or a pair above them. -/
def cutRepeats : List Word → Survey → Survey
  | path, duo raw car cdr =>
    if raw ∈ path then cycle raw
    else duo raw (car.cutRepeats (raw :: path)) (cdr.cutRepeats (raw :: path))
  | _, leaf => leaf

/-- No pair repeats a pair of the path or a pair above it. -/
def RepeatFree : List Word → Survey → Prop
  | path, duo raw car cdr =>
    raw ∉ path ∧ car.RepeatFree (raw :: path) ∧ cdr.RepeatFree (raw :: path)
  | _, _ => True

theorem shown_cutRepeats_eq_iff (path : List Word) (found : Survey) :
    (found.cutRepeats path).shown = found.shown ↔ found.RepeatFree path := by
  induction found generalizing path with
  | duo raw car cdr car_ih cdr_ih =>
    by_cases repeated : raw ∈ path
    · simp [cutRepeats, RepeatFree, shown, repeated]
    · simp [cutRepeats, RepeatFree, shown, repeated, car_ih, cdr_ih]
  | _ => simp [cutRepeats, RepeatFree]

end Survey

namespace HeapReader

variable {heap : HeapReader Unit}

theorem SurveyedLeaf.cutRepeats_eq {raw : Word} {state next : Unit} {found : Survey}
    (leaf : SurveyedLeaf heap raw state found next) (path : List Word) :
    found.cutRepeats path = found := by
  cases leaf <;> rfl

theorem surveyed_cutRepeats {levels : Nat} {path : List Word} {raw : Word} {state next : Unit}
    {found : Survey} (rules : Surveyed heap false levels path raw state found next)
    (above : List Word) :
    Surveyed heap true levels above raw state (found.cutRepeats above) next := by
  induction rules generalizing above with
  | elided path raw state => exact .elided above raw state
  | leaf path leaf =>
    rw [leaf.cutRepeats_eq]
    exact .leaf above leaf
  | cycle asked repeated => exact absurd repeated.1 Bool.false_ne_true
  | duo asked _ parted _ _ first second =>
    rw [Survey.cutRepeats]
    split_ifs with repeated
    · exact .cycle asked ⟨rfl, repeated⟩
    · exact .duo asked (fun both => repeated both.2) parted (first _) (second _)

theorem surveyed_of_path {levels : Nat} {path : List Word} {raw : Word} {state next : Unit}
    {found : Survey} (rules : Surveyed heap false levels path raw state found next)
    (above : List Word) : Surveyed heap false levels above raw state found next := by
  induction rules generalizing above with
  | elided path raw state => exact .elided above raw state
  | leaf path leaf => exact .leaf above leaf
  | cycle asked repeated => exact absurd repeated.1 Bool.false_ne_true
  | duo asked _ parted _ _ first second =>
    exact .duo asked (fun both => Bool.false_ne_true both.1) parted (first _) (second _)

/-- The positions that a decode with detection visits below a root: the levels left there, the pair
words above and the word. -/
inductive Visited (heap : HeapReader Unit) (levels : Nat) (root : Word) :
    Nat → List Word → Word → Prop
  | root : Visited heap levels root levels [] root
  | car {left : Nat} {path : List Word} {raw car cdr : Word} :
      Visited heap levels root (left + 1) path raw → raw ∉ path →
      heap.tagOf raw () = (.ok .duo, ()) → heap.askParts raw () = (.ok (car, cdr), ()) →
      Visited heap levels root left (raw :: path) car
  | cdr {left : Nat} {path : List Word} {raw car cdr : Word} :
      Visited heap levels root (left + 1) path raw → raw ∉ path →
      heap.tagOf raw () = (.ok .duo, ()) → heap.askParts raw () = (.ok (car, cdr), ()) →
      Visited heap levels root left (raw :: path) cdr

variable {levels left : Nat} {root raw : Word} {path : List Word}

theorem Visited.of_mem_path (visited : Visited heap levels root left path raw) {above : Word}
    (member : above ∈ path) :
    ∃ more within, left < more ∧ above ∉ within ∧ Visited heap levels root more within above := by
  induction visited with
  | root => cases member
  | car visited fresh _ _ ih | cdr visited fresh _ _ ih =>
    rcases List.mem_cons.mp member with rfl | earlier
    · exact ⟨_, _, Nat.lt_succ_self _, fresh, visited⟩
    · obtain ⟨more, within, more_lt, free, found⟩ := ih earlier
      exact ⟨more, within, by omega, free, found⟩

theorem surveyed_parts {part : Survey} {car cdr : Word}
    (rules : Surveyed heap true (left + 1) path raw () part ()) (fresh : raw ∉ path)
    (asked : heap.tagOf raw () = (.ok .duo, ()))
    (parted : heap.askParts raw () = (.ok (car, cdr), ())) :
    (∃ first, Surveyed heap true left (raw :: path) car () first ()) ∧
      ∃ second, Surveyed heap true left (raw :: path) cdr () second () := by
  cases rules with
  | cycle _ repeated => exact absurd repeated.2 fresh
  | duo _ _ read first second =>
    cases parted.symm.trans read
    exact ⟨⟨_, first⟩, ⟨_, second⟩⟩
  | leaf _ leaf => exact absurd asked (leaf.tagOf_ne_duo ())

theorem Visited.surveyed (visited : Visited heap levels root left path raw)
    {found : Survey} (whole : Surveyed heap Bool.true levels [] root () found ()) :
    ∃ part, Surveyed heap Bool.true left path raw () part () := by
  induction visited with
  | root => exact ⟨found, whole⟩
  | car _ fresh asked parted ih =>
    obtain ⟨_, rules⟩ := ih
    exact (surveyed_parts rules fresh asked parted).1
  | cdr _ fresh asked parted ih =>
    obtain ⟨_, rules⟩ := ih
    exact (surveyed_parts rules fresh asked parted).2

/-- At a position that the successful decode with detection visits, and with no more levels than it
has there, the decode without detection succeeds as well. The induction is on the levels of the
latter: below a pair that was cut it goes on as below the pair that was expanded, which has more
levels left. -/
theorem exists_surveyed_of_visited {found : Survey}
    (whole : Surveyed heap true levels [] root () found ()) (bound : Nat) :
    ∀ left path raw, bound ≤ left → Visited heap levels root left path raw →
      ∃ part, Surveyed heap false bound path raw () part () := by
  induction bound with
  | zero => exact fun _ path raw _ _ => ⟨_, .elided path raw ()⟩
  | succ bound ih =>
    intro left path raw bound_le visited
    obtain ⟨left, rfl⟩ : ∃ less, left = less + 1 := ⟨left - 1, by omega⟩
    have expanded : ∀ {more within car cdr}, bound ≤ more →
        Visited heap levels root (more + 1) within raw → raw ∉ within →
        heap.tagOf raw () = (.ok .duo, ()) → heap.askParts raw () = (.ok (car, cdr), ()) →
        ∃ part, Surveyed heap false (bound + 1) path raw () part () := by
      intro more within car cdr bound_le visited fresh asked parted
      obtain ⟨first, car_rules⟩ := ih _ _ _ bound_le (.car visited fresh asked parted)
      obtain ⟨second, cdr_rules⟩ := ih _ _ _ bound_le (.cdr visited fresh asked parted)
      exact ⟨_, .duo asked (fun both => Bool.false_ne_true both.1) parted
        (surveyed_of_path car_rules _) (surveyed_of_path cdr_rules _)⟩
    obtain ⟨part, rules⟩ := visited.surveyed whole
    cases rules with
    | leaf _ leaf => exact ⟨_, .leaf path leaf⟩
    | duo asked fresh parted _ _ =>
      exact expanded (by omega) visited (fun member => fresh ⟨rfl, member⟩) asked parted
    | cycle asked repeated =>
      obtain ⟨more, within, more_gt, free, earlier⟩ := visited.of_mem_path repeated.2
      obtain ⟨more, rfl⟩ : ∃ less, more = less + 1 := ⟨more - 1, by omega⟩
      obtain ⟨_, rules⟩ := earlier.surveyed whole
      cases rules with
      | cycle _ again => exact absurd again.2 free
      | duo _ _ parted _ _ => exact expanded (by omega) earlier free asked parted
      | leaf _ leaf => exact absurd asked (leaf.tagOf_ne_duo ())

theorem exists_surveyed_without_detection {found : Survey}
    (whole : Surveyed heap true levels [] root () found ()) :
    ∃ part, Surveyed heap false levels [] root () part () :=
  exists_surveyed_of_visited whole levels levels [] root (Nat.le_refl _) .root

theorem decode_eq_ok_iff {options : DecodeOptions} {shown : Projection} :
    (Projection.decode heap options raw ()).1 = .ok shown ↔
      ∃ found, Surveyed heap options.detectCycles (options.clamped.maxDepth + 1) [] raw () found () ∧
        found.shown = shown := by
  rw [decode_eq_survey]
  constructor
  · intro ok
    cases answer : (heap.survey options raw ()).1 with
    | error e =>
      rw [answer] at ok
      cases ok
    | ok found =>
      rw [answer] at ok
      exact ⟨found, surveyAt_eq_ok_iff.mp (Prod.ext answer rfl), Except.ok.inj ok⟩
  · rintro ⟨found, rules, rfl⟩
    rw [survey, rules.surveyAt_eq]
    rfl

end HeapReader

private theorem exists_error_iff {α : Type} {answer : Except Error α} :
    (∃ e, answer = .error e) ↔ ¬ ∃ a, answer = .ok a := by
  cases answer <;> simp

/-- On a heap whose answers are fixed, decoding fails with detection exactly if it fails without. If
both succeed, the result with detection is the one without, cut on every way down at the first pair
that repeats a pair above it; the two are equal exactly if no pair repeats one. -/
theorem decode_detectCycles (tagOf : Word → Except Error Tag) (row : Tag → Word → Except Error Row)
    (string : Word → Except Error String) (sentinels : Sentinels) (maxDepth : Nat) (raw : Word) :
    ((∃ e, (Projection.decode (.fixed tagOf row string sentinels) ⟨maxDepth, true⟩ raw ()).1 =
        .error e) ↔
      ∃ e, (Projection.decode (.fixed tagOf row string sentinels) ⟨maxDepth, false⟩ raw ()).1 =
        .error e) ∧
    ∀ cut full,
      (Projection.decode (.fixed tagOf row string sentinels) ⟨maxDepth, true⟩ raw ()).1 = .ok cut →
      (Projection.decode (.fixed tagOf row string sentinels) ⟨maxDepth, false⟩ raw ()).1 = .ok full →
      ∃ found,
        (HeapReader.survey (.fixed tagOf row string sentinels) ⟨maxDepth, false⟩ raw ()).1 =
          .ok found ∧
        full = found.shown ∧ cut = (found.cutRepeats []).shown ∧
        (cut = full ↔ found.RepeatFree []) := by
  constructor
  · rw [exists_error_iff, exists_error_iff, not_iff_not]
    simp only [HeapReader.decode_eq_ok_iff]
    constructor
    · rintro ⟨_, _, rules, -⟩
      obtain ⟨found, rules⟩ := HeapReader.exists_surveyed_without_detection rules
      exact ⟨_, found, rules, rfl⟩
    · rintro ⟨_, found, rules, -⟩
      exact ⟨_, _, HeapReader.surveyed_cutRepeats rules [], rfl⟩
  · intro cut full cut_ok full_ok
    obtain ⟨found, rules, rfl⟩ := HeapReader.decode_eq_ok_iff.mp full_ok
    have detected : (Projection.decode (.fixed tagOf row string sentinels) ⟨maxDepth, true⟩
        raw ()).1 = .ok (found.cutRepeats []).shown :=
      HeapReader.decode_eq_ok_iff.mpr ⟨_, HeapReader.surveyed_cutRepeats rules [], rfl⟩
    have cut_eq : cut = (found.cutRepeats []).shown :=
      Except.ok.inj (cut_ok.symm.trans detected)
    refine ⟨found, congrArg Prod.fst rules.surveyAt_eq, rfl, cut_eq, ?_⟩
    rw [cut_eq]
    exact found.shown_cutRepeats_eq_iff []

/-- A pair whose second part is itself, one level deep: the survey goes around once, and detection
cuts it there. -/
theorem decode_ownTail :
    ∃ found, (HeapReader.survey (.fixed (fun raw => .ok (if raw = 1 then .int else .duo))
        (fun tag raw => .ok ⟨tag, [1, raw]⟩) (fun _ => .ok "") ⟨0, 0⟩) ⟨1, false⟩ 2 ()).1 = .ok found ∧
      .duo (.int 1) (.duo (.elided 1) (.elided 2)) = found.shown ∧
      .duo (.int 1) (.cycle 2) = (found.cutRepeats []).shown ∧ ¬ found.RepeatFree [] := by
  obtain ⟨found, surveyed, full, cut, equal⟩ := (decode_detectCycles
    (fun raw => .ok (if raw = 1 then .int else .duo)) (fun tag raw => .ok ⟨tag, [1, raw]⟩)
    (fun _ => .ok "") ⟨0, 0⟩ 1 2).2 _ _ rfl rfl
  refine ⟨found, surveyed, full, cut, fun free => ?_⟩
  cases equal.mpr free

end LispHost
