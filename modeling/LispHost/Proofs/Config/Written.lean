import LispHost.Proofs.Config.Settings
import LispHost.Proofs.Word.Reader
import Mathlib.Tactic.FinCases

/-!
What a setting reads from a text.

A file without types and a variable give nothing but texts. The name of a value is known in any case. A truth
value is one of three words or a figure. A number is a decimal numeral below its bound, or a truth word, which
stands for one or zero; no text is both. Any other text of these settings is refused, and a setting that is a
text is the text as it stands.
-/

set_option autoImplicit false

namespace LispHost

namespace Text

theorem lowerChars_of_small (before : List Char) {s : List Char}
    (small : ∀ c ∈ s, c ≠ 'Σ' ∧ lowerChar c = [c]) : lowerChars before s = s := by
  induction s generalizing before with
  | nil => rfl
  | cons c rest ih =>
    obtain ⟨⟨not_sigma, fixed⟩, rest_small⟩ := List.forall_mem_cons.mp small
    rw [lowerChars, if_neg not_sigma, fixed, ih (c :: before) rest_small]
    rfl

theorem lowercase_of_small {s : String} (small : ∀ c ∈ s.toList, c ≠ 'Σ' ∧ lowerChar c = [c]) :
    lowercase s = s := by
  rw [lowercase, lowerChars_of_small [] small, String.ofList_toList]

end Text

namespace Config

def truthWords : Bool → List String
  | true => ["true", "on", "yes"]
  | false => ["false", "off", "no"]

def truthFigure : Bool → String
  | true => "1"
  | false => "0"

/-- A word of a truth value, in any case. -/
def TruthWord (s : String) (b : Bool) : Prop :=
  Text.lowercase s ∈ truthWords b

instance (s : String) (b : Bool) : Decidable (TruthWord s b) :=
  inferInstanceAs (Decidable (_ ∈ _))

/-- A truth word for one or zero, or a decimal numeral, of a number below the bound. -/
def SpellsNumber (bound : Nat) (s : String) (n : Nat) : Prop :=
  ((∃ b, TruthWord s b ∧ n = b.toNat) ∨ Word.Numeral 10 s.toList n) ∧ n < bound

theorem truth?_eq_some_iff {lower : String} {b : Bool} :
    FieldReader.truth? lower = some b ↔ lower ∈ truthWords b := by
  constructor
  · intro named
    rw [FieldReader.truth?.eq_def] at named
    split at named <;> cases named <;> decide
  · intro word
    cases b <;> fin_cases word <;> rfl

def figures : List Char :=
  ['+', '0', '1', '2', '3', '4', '5', '6', '7', '8', '9']

theorem mem_figures_of_numeral {s : List Char} {n : Nat} (numeral : Word.Numeral 10 s n) :
    ∀ c ∈ s, c ∈ figures := by
  have figure (c : Char) (d : Nat) (digit : Text.IsDigit 10 c d) : c ∈ figures := by
    have figures_of_lt : ∀ d < 10, d.digitChar ∈ figures ∧ d.digitChar.toUpper ∈ figures := by
      decide +kernel
    obtain ⟨below, rfl | rfl⟩ := digit
    · exact (figures_of_lt d below).1
    · exact (figures_of_lt d below).2
  obtain ⟨digits, shape, -, values, digit, -⟩ := numeral
  have digits_figures : ∀ c ∈ digits, c ∈ figures :=
    ((List.forall₂_and_left _ _).mp (digit.imp fun c d one => ⟨figure c d one, one⟩)).1
  rcases shape with rfl | rfl
  · exact digits_figures
  · exact List.forall_mem_cons.mpr ⟨by decide, digits_figures⟩

/-- No truth word is a numeral: making figures small changes nothing, and every truth word has a letter. -/
theorem not_truthWord_of_numeral {s : String} {n : Nat} (numeral : Word.Numeral 10 s.toList n)
    (b : Bool) : ¬ TruthWord s b := by
  intro word
  have only_figures := mem_figures_of_numeral numeral
  have small : ∀ c ∈ figures, c ≠ 'Σ' ∧ Text.lowerChar c = [c] := by
    intro c member
    fin_cases member <;> decide
  rw [TruthWord, Text.lowercase_of_small fun c member => small c (only_figures c member)] at word
  have lettered : ∀ w ∈ truthWords b, 'e' ∈ w.toList ∨ 'o' ∈ w.toList := by
    cases b <;> decide
  rcases lettered s word with letter | letter
  · exact absurd (only_figures 'e' letter) (by decide)
  · exact absurd (only_figures 'o' letter) (by decide)

namespace FieldReader

variable {α : Type} {key : Key} {source : Source} {s : String}

theorem long_text_eq_ok_iff {n : Nat} :
    long key (.text source s) = .ok n ↔ SpellsNumber UInt64.size s n := by
  have read_iff : Word.readNumber UInt64.size 10 s.toList = .ok n ↔
      Word.Numeral 10 s.toList n ∧ n < UInt64.size :=
    Word.readNumber_eq_ok_iff (by decide) (by decide) (by decide)
  cases named : truth? (Text.lowercase s) with
  | some b =>
    have word : TruthWord s b := truth?_eq_some_iff.mp named
    have read : long key (.text source s) = .ok b.toNat := by
      simp only [long, named]
    rw [read, Except.ok.injEq]
    constructor
    · rintro rfl
      exact ⟨.inl ⟨b, word, rfl⟩, b.toNat_lt.trans (by decide)⟩
    · rintro ⟨⟨b', word', rfl⟩ | numeral, -⟩
      · have same := truth?_eq_some_iff.mpr word'
        rw [named] at same
        rw [Option.some.inj same]
      · exact absurd word (not_truthWord_of_numeral numeral b)
  | none =>
    have no_word (b : Bool) : ¬ TruthWord s b := by
      intro word
      exact absurd (named.symm.trans (truth?_eq_some_iff.mpr word)) nofun
    have read : long key (.text source s) = .ok n ↔
        Word.readNumber UInt64.size 10 s.toList = .ok n := by
      simp only [long, named]
      cases Word.readNumber UInt64.size 10 s.toList with
      | ok m => rw [Except.ok.injEq, Except.ok.injEq]
      | error fault => exact ⟨nofun, nofun⟩
    rw [read, read_iff, SpellsNumber, or_iff_right]
    rintro ⟨b, word, -⟩
    exact no_word b word

theorem short_text_eq_ok_iff {n : Nat} :
    short key (.text source s) = .ok n ↔ SpellsNumber wordCount s n := by
  have within : SpellsNumber wordCount s n ↔ SpellsNumber UInt64.size s n ∧ n < wordCount := by
    have wide : n < wordCount → n < UInt64.size := fun below => below.trans (by decide)
    simp only [SpellsNumber]
    exact ⟨fun both => ⟨⟨both.1, wide both.2⟩, both.2⟩, fun both => ⟨both.1.1, both.2⟩⟩
  have long_iff : long key (.text source s) = .ok n ↔ SpellsNumber UInt64.size s n :=
    long_text_eq_ok_iff
  rw [within, ← long_iff, short]
  cases long key (.text source s) with
  | error problem => exact ⟨nofun, fun both => nomatch both.1⟩
  | ok m =>
    change (if m < wordCount then Except.ok m else _) = _ ↔ _
    rw [Except.ok.injEq]
    split
    · rename_i below
      rw [Except.ok.injEq]
      exact ⟨fun same => ⟨same, same ▸ below⟩, fun both => both.1⟩
    · rename_i large
      exact ⟨nofun, fun both => absurd (both.1 ▸ both.2) large⟩

theorem bool_text_eq_ok_iff {b : Bool} :
    bool key (.text source s) = .ok b ↔
      TruthWord s b ∨ Text.lowercase s = truthFigure b := by
  simp only [bool, TruthWord]
  generalize Text.lowercase s = lower
  split
  · cases b <;> decide
  · cases b <;> decide
  · rename_i not_one not_zero
    have no_figure : lower ≠ truthFigure b := by
      cases b
      · exact not_zero
      · exact not_one
    rw [or_iff_left no_figure, ← truth?_eq_some_iff]
    cases truth? lower with
    | none => exact ⟨nofun, nofun⟩
    | some b' => rw [Except.ok.injEq, Option.some.injEq]

theorem optional_text_eq_ok_iff {read : FieldReader α} {a? : Option α} :
    optional read key (.text source s) = .ok a? ↔
      ∃ a, a? = some a ∧ read key (.text source s) = .ok a := by
  change (read key (.text source s)).map some = _ ↔ _
  cases read key (.text source s) with
  | error problem => exact ⟨nofun, fun ⟨_, _, read⟩ => nomatch read⟩
  | ok a =>
    change Except.ok (some a) = _ ↔ _
    simp [eq_comm]

/-- A choice whose names differ whatever their case is given by any of them, in any case. -/
theorem variant_text_eq_ok_iff {choice : String} {values : List (String × α)}
    (distinct : (values.map fun value => Text.lowercase value.1).Nodup) {a : α} :
    variant choice values key (.text source s) = .ok a ↔
      ∃ name, (name, a) ∈ values ∧ Text.lowercase s = Text.lowercase name := by
  simp only [variant]
  cases found : values.find? fun value => Text.lowercase value.1 = Text.lowercase s with
  | none =>
    have other := List.find?_eq_none.mp found
    refine ⟨nofun, ?_⟩
    rintro ⟨name, member, same⟩
    exact absurd (decide_eq_true same.symm) (other (name, a) member)
  | some value =>
    have member := List.mem_of_find?_eq_some found
    have same : Text.lowercase value.1 = Text.lowercase s := by
      simpa using List.find?_some found
    rw [Except.ok.injEq]
    constructor
    · rintro rfl
      exact ⟨value.1, member, same.symm⟩
    · rintro ⟨name, member', same'⟩
      have one := List.inj_on_of_nodup_map distinct member member' (same.trans same')
      rw [one]

end FieldReader

namespace Setting

variable {α : Type}

/-- A text gives a value of a setting. -/
def Spells : {α : Type} → Setting α → String → α → Prop
  | _, guest, s, value | _, memory, s, value | _, tagOf, s, value | _, row, s, value
  | _, string, s, value | _, tagInt, s, value | _, tagSys, s, value | _, tagDuo, s, value
  | _, tagSym, s, value | _, sysNil, s, value | _, sysT, s, value | _, alloc, s, value
  | _, read, s, value | _, eval, s, value | _, start, s, value => s = value
  | _, stubPolicy, s, policy => Text.lowercase s = policy.name
  | _, consoleEncoding, s, decoding => Text.lowercase s = decoding.name
  | _, maxDepth, s, n => SpellsNumber UInt64.size s n
  | _, detectCycles, s, b => TruthWord s b ∨ Text.lowercase s = truthFigure b
  | _, maxMemoryPages, s, n | _, maxTableElements, s, n => SpellsNumber wordCount s n
  | _, maxFuel, s, fuel => ∃ n, fuel = some n ∧ SpellsNumber UInt64.size s n

/-- A text at the path of a setting is read if it gives a value, and as this value. -/
theorem value_text_eq_ok_iff (s : Setting α) {source : Source} {text : String} {a : α} :
    s.value (.text source text) = .ok a ↔ s.Spells text a := by
  cases s with
  | stubPolicy =>
    have named : ∀ policy : StubPolicy, Text.lowercase policy.name = policy.name := by
      intro policy
      cases policy <;> decide +kernel
    simp only [value, reader, StubPolicy.ofTree, Spells]
    rw [FieldReader.variant_text_eq_ok_iff (by decide +kernel)]
    cases a <;> simp [named]
  | consoleEncoding =>
    have named : ∀ decoding : TextDecoding, Text.lowercase decoding.name = decoding.name := by
      intro decoding
      cases decoding <;> decide +kernel
    simp only [value, reader, TextDecoding.ofTree, Spells]
    rw [FieldReader.variant_text_eq_ok_iff (by decide +kernel)]
    cases a <;> simp [named]
  | maxDepth => exact FieldReader.long_text_eq_ok_iff
  | detectCycles => exact FieldReader.bool_text_eq_ok_iff
  | maxMemoryPages => exact FieldReader.short_text_eq_ok_iff
  | maxTableElements => exact FieldReader.short_text_eq_ok_iff
  | maxFuel =>
    simp only [value, reader, Spells]
    rw [FieldReader.optional_text_eq_ok_iff]
    simp only [FieldReader.long_text_eq_ok_iff]
  | _ => exact iff_of_eq (Except.ok.injEq text a)

end Setting

end Config

end LispHost
