import LispHost.Proofs.Decode.Rules
import LispHost.Proofs.Script.Content

/-!
Metered decodes of scripted guests.

Metering changes no answer: what is decoded without it is decoded with it, as long as the fuel lasts, and
where it runs out the decode fails with none left. A decode that succeeds has paid at least one unit for
each word that it has classified.
-/

set_option autoImplicit false

namespace LispHost.Script

open Instance (spend?)

variable {d : Description} {ctx : DecodingContext Globals} {inst next : Instance Globals}

theorem Alike.refl (d : Description) (ctx : DecodingContext Globals) (inst : Instance Globals) :
    Alike d ctx inst inst fun _ _ => True where
  row _ _ _ _ lies := lies
  parts _ _ _ _ _ _ := trivial
  record _ _ _ _ _ unwrapped lies := ⟨unwrapped, lies⟩

theorem Scripted.decode_metered (scripted : Scripted d ctx) {options : DecodeOptions} {raw : Word}
    {shown : Projection}
    (decoded : (ctx.decode options raw (inst.withFuel none)).1 = .ok shown) :
    (∃ fuel, (inst.fuel = none ↔ fuel = none) ∧
      ctx.decode options raw inst = (.ok shown, inst.withFuel fuel)) ∨
    inst.fuel ≠ none ∧
      ctx.decode options raw inst =
        (.error (.execution (.trap .outOfFuel)), inst.withFuel (some 0)) := by
  let Fuel (f g : Option Nat) : Prop := f = none ∧ (inst.fuel = none ↔ g = none)
  let Failed (e : Error) (state : Instance Globals) : Prop :=
    inst.fuel ≠ none ∧ e = .execution (.trap .outOfFuel) ∧ state = inst.withFuel (some 0)
  have paying : Paying inst Fuel Failed := by
    rintro f g f' ⟨rfl, metering⟩ spent
    cases spent
    cases paid : spend? g with
    | some g' => exact .inl ⟨g', rfl, rfl, metering.trans (Instance.unmetered_iff_of_spend paid)⟩
    | none =>
      obtain rfl := Instance.spend?_eq_none_iff.mp paid
      exact .inr ⟨rfl, by simp [metering], rfl, rfl⟩
  have related : UpToFuel inst inst Fuel (inst.withFuel none) inst :=
    ⟨none, inst.fuel, rfl, rfl, rfl, Iff.rfl⟩
  have follows : Inquiry.Follows (UpToFuel inst inst Fuel) Failed
      (ctx.decode options raw (inst.withFuel none)) (ctx.decode options raw inst) :=
    ((Alike.refl d ctx inst).following scripted paying).decode trivial related
  rcases follows shown decoded with ⟨same, _, g, -, left, -, metering⟩ | ⟨e, failed, metered, rfl, left⟩
  · exact .inl ⟨g, metering, Prod.ext same left⟩
  · exact .inr ⟨metered, Prod.ext failed left⟩

/-! ### The price of a decode -/

def classified : Projection → Nat
  | .elided _ => 0
  | .duo car cdr => 1 + classified car + classified cdr
  | _ => 1

section Price

variable {f : Nat}

private theorem exists_of_callWord_le {arity : Nat} {body : List Word → Program Word}
    {args : List Word} {ending : Ending Word}
    (steady : ∀ fuel, Instance.run (body args) (inst.withFuel fuel) = (ending, inst.withFuel fuel)) :
    ∃ g ≤ f, ((inst.withFuel (some f)).callWord (function arity body) args).2 =
      inst.withFuel (some g) := by
  cases f with
  | zero => exact ⟨0, Nat.le_refl 0, congrArg Prod.snd (Instance.callWord_of_empty rfl _ _)⟩
  | succ f =>
    have paid : spend? (inst.withFuel (some (f + 1))).fuel = some (some f) := rfl
    exact ⟨f, Nat.le_succ f, congrArg Prod.snd (callWord_of_spend paid (steady (some f)))⟩

private theorem exists_of_tagOfValue_lt (scripted : Scripted d ctx) {raw : Word} {tag : Tag}
    (tagged : ctx.tagOfValue raw (inst.withFuel (some f)) = (.ok tag, next)) :
    ∃ g < f, next = inst.withFuel (some g) := by
  obtain ⟨code, called, -⟩ := exists_of_tagOfValue scripted tagged
  obtain ⟨g, spent, -, rfl⟩ := exists_of_callWord (fun fuel => run_tagOf_eq raw _) called
  cases f with
  | zero => cases spent
  | succ f =>
    cases spent
    exact ⟨f, Nat.lt_succ_self f, rfl⟩

private theorem exists_of_rowOf_le (scripted : Scripted d ctx) (inst : Instance Globals) (f : Nat)
    (tag : Tag) (raw : Word) :
    ∃ g ≤ f, (ctx.rowOf tag raw (inst.withFuel (some f))).2 = inst.withFuel (some g) := by
  rw [DecodingContext.rowOf]
  split
  · rename_i width code _ _
    have steady (fuel : Option Nat) : Instance.run (two (row d) [code, raw]) (inst.withFuel fuel) =
        (lookedUp (rowPlace? d code raw), inst.withFuel fuel) := run_row_eq code raw _
    have called : ∃ g ≤ f, ((inst.withFuel (some f)).callWord (function 2 (two (row d)))
        [code, raw]).2 = inst.withFuel (some g) := exists_of_callWord_le steady
    rw [scripted.row]
    split <;> rename_i answered <;> simpa only [answered] using called
  · exact ⟨f, Nat.le_refl f, rfl⟩

private theorem exists_of_stringOf_le (scripted : Scripted d ctx) (inst : Instance Globals) (f : Nat)
    (handle : Word) :
    ∃ g ≤ f, (ctx.stringOf handle (inst.withFuel (some f))).2 = inst.withFuel (some g) := by
  have steady (fuel : Option Nat) : Instance.run (one str [handle]) (inst.withFuel fuel) =
      (.value (inst.globals.strBase + handle), inst.withFuel fuel) := run_str handle _
  have called : ∃ g ≤ f, ((inst.withFuel (some f)).callWord (function 1 (one str)) [handle]).2 =
      inst.withFuel (some g) := exists_of_callWord_le steady
  rw [DecodingContext.stringOf, scripted.string]
  split <;> rename_i answered <;> simpa only [answered] using called

private theorem exists_of_askHandle_le (scripted : Scripted d ctx) {raw handle : Word}
    (handled : ctx.reader.askHandle raw (inst.withFuel (some f)) = (.ok handle, next)) :
    ∃ g ≤ f, next = inst.withFuel (some g) := by
  obtain ⟨g, le, after⟩ := exists_of_rowOf_le scripted inst f .sym raw
  refine ⟨g, le, ?_⟩
  simp only [HeapReader.askHandle, DecodingContext.reader] at handled
  split at handled <;> rename_i answered <;> rw [answered] at after <;>
    exact (congrArg Prod.snd handled).symm.trans after

private theorem exists_of_askParts_le (scripted : Scripted d ctx) {raw : Word} {parts : Word × Word}
    (parted : ctx.reader.askParts raw (inst.withFuel (some f)) = (.ok parts, next)) :
    ∃ g ≤ f, next = inst.withFuel (some g) := by
  obtain ⟨g, le, after⟩ := exists_of_rowOf_le scripted inst f .duo raw
  refine ⟨g, le, ?_⟩
  simp only [HeapReader.askParts, DecodingContext.reader] at parted
  split at parted <;> rename_i answered <;> rw [answered] at after <;>
    exact (congrArg Prod.snd parted).symm.trans after

theorem Scripted.exists_of_surveyed (scripted : Scripted d ctx) {detectCycles : Bool} {levels : Nat}
    {path : List Word} {raw : Word} {found : Survey} {state : Instance Globals}
    (start : state = inst.withFuel (some f))
    (surveyed : HeapReader.Surveyed ctx.reader detectCycles levels path raw state found next) :
    ∃ g, next = inst.withFuel (some g) ∧ g + classified found.shown ≤ f := by
  induction surveyed generalizing f with
  | elided path raw state => exact ⟨f, start, Nat.le_refl f⟩
  | cycle tagged _ =>
    obtain ⟨g, less, rfl⟩ := exists_of_tagOfValue_lt scripted (start ▸ tagged)
    exact ⟨g, rfl, less⟩
  | leaf path leaf =>
    subst start
    cases leaf with
    | int tagged | nil tagged | true tagged | stray tagged | unknown tagged =>
      obtain ⟨g, less, rfl⟩ := exists_of_tagOfValue_lt scripted tagged
      exact ⟨g, rfl, less⟩
    | sym tagged handled named | undecodable tagged handled named =>
      obtain ⟨g, less, rfl⟩ := exists_of_tagOfValue_lt scripted tagged
      obtain ⟨g', le, rfl⟩ := exists_of_askHandle_le scripted handled
      obtain ⟨g'', le', after⟩ := exists_of_stringOf_le scripted inst g' _
      obtain rfl := (congrArg Prod.snd named).symm.trans after
      exact ⟨g'', rfl, by simp only [Survey.shown, classified]; omega⟩
  | duo tagged _ parted _ _ car_ih cdr_ih =>
    obtain ⟨g, less, rfl⟩ := exists_of_tagOfValue_lt scripted (start ▸ tagged)
    obtain ⟨g', le, rfl⟩ := exists_of_askParts_le scripted parted
    obtain ⟨g'', rfl, car_price⟩ := car_ih rfl
    obtain ⟨last, rfl, cdr_price⟩ := cdr_ih rfl
    exact ⟨last, rfl, by simp only [Survey.shown, classified]; omega⟩

theorem Scripted.exists_of_decode (scripted : Scripted d ctx) (metered : inst.fuel = some f)
    {options : DecodeOptions} {raw : Word} {shown : Projection}
    (decoded : ctx.decode options raw inst = (.ok shown, next)) :
    ∃ g, next = inst.withFuel (some g) ∧ g + classified shown ≤ f := by
  have start : inst = inst.withFuel (some f) := by
    rw [← metered]
    rfl
  rw [DecodingContext.decode, HeapReader.decode_eq_survey, HeapReader.survey] at decoded
  cases taken : ctx.reader.surveyAt options.detectCycles (options.clamped.maxDepth + 1) [] raw
    inst with
  | mk answer after =>
  rw [taken] at decoded
  cases answer with
  | error e => cases decoded
  | ok found =>
    cases decoded
    exact scripted.exists_of_surveyed start (HeapReader.surveyed_of_surveyAt taken)

end Price

end LispHost.Script
