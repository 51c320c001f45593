import LispHost.Proofs.Json.Reading
import LispHost.Report

/-!
JSON reports lose nothing.

A report is found again in its JSON text in two steps: the text is read back as the JSON tree of the report, and
only this report has this tree. The fields that are there tell an absent source or expression from one that is
given, and the kind of a node tells its shape.
-/

set_option autoImplicit false

namespace LispHost

/-! ### Numbers -/

namespace Json

theorem natural_word (w : Word) : (word w).Natural :=
  .nat w.toNat

theorem word_injective {v w : Word} (same : word v = word w) : v = w := by
  have digits : v.toNat = w.toNat := congrArg Decimal.digits (number.inj same)
  exact UInt32.toNat_inj.mp digits

@[simp] theorem word_inj {v w : Word} : word v = word w ↔ v = w :=
  ⟨word_injective, fun same => same ▸ rfl⟩

@[simp] theorem natural_object_iff {fields : List (String × Json)} :
    (object fields).Natural ↔ ∀ entry ∈ fields, entry.2.Natural := by
  constructor
  · intro natural
    cases natural with
    | object natural => exact natural
  · exact .object

end Json

theorem Tag.natural_toJson (tag : Tag) : tag.toJson.Natural := by
  cases tag with
  | unknown code => simp [toJson, Json.natural_word]
  | _ => exact .string _

theorem Projection.natural_toJson (p : Projection) : p.toJson.Natural := by
  induction p with
  | unknown tag raw =>
    simp [toJson, Json.natural_word, tag.natural_toJson, Json.Natural.string]
  | duo car cdr first second => simp [toJson, first, second, Json.Natural.string]
  | _ => simp [toJson, Json.natural_word, Json.Natural.string]

theorem Report.natural_toJson (report : Report) : report.toJson.Natural := by
  obtain ⟨source, expression, raw, value⟩ := report
  cases source <;> cases expression <;>
    simp [toJson, Json.natural_word, Projection.natural_toJson, Json.Natural.string]

/-! ### Trees -/

theorem Tag.toJson_injective {tag other : Tag} (same : tag.toJson = other.toJson) :
    tag = other := by
  cases tag <;> cases other <;> simp_all [toJson, label]

@[simp] theorem Tag.toJson_inj {tag other : Tag} : tag.toJson = other.toJson ↔ tag = other :=
  ⟨Tag.toJson_injective, fun same => same ▸ rfl⟩

theorem Projection.toJson_injective {p q : Projection} (same : p.toJson = q.toJson) : p = q := by
  induction p generalizing q with
  | duo car cdr first second =>
    cases q with
    | duo car' cdr' =>
      simp only [toJson, Json.object.injEq, List.cons.injEq, Prod.mk.injEq, true_and, and_true] at same
      rw [first same.1, second same.2]
    | _ => simp [toJson] at same
  | _ => cases q <;> simp_all [toJson]

@[simp] theorem Projection.toJson_inj {p q : Projection} : p.toJson = q.toJson ↔ p = q :=
  ⟨Projection.toJson_injective, fun same => same ▸ rfl⟩

theorem Report.toJson_injective {report other : Report} (same : report.toJson = other.toJson) :
    report = other := by
  obtain ⟨source, expression, raw, value⟩ := report
  obtain ⟨source', expression', raw', value'⟩ := other
  cases source <;> cases expression <;> cases source' <;> cases expression' <;>
    simp_all [toJson]

/-! ### Texts -/

namespace Report

theorem parse?_pretty (report : Report) {depth : Nat}
    (deep : report.toJson.pretty.length ≤ depth) :
    Json.parse? depth report.toJson.pretty = some report.toJson := by
  have written : report.toJson.pretty = String.ofList (Json.Layout.indented.onto 0 report.toJson []) := by
    unfold Json.pretty
    rw [Json.Layout.prettyOnto_eq]
  rw [written, String.length_ofList] at deep
  rw [written]
  exact Json.parse?_onto report.natural_toJson .indented deep

theorem parse?_compact (report : Report) {depth : Nat}
    (deep : report.toJson.compact.length ≤ depth) :
    Json.parse? depth report.toJson.compact = some report.toJson := by
  have written : report.toJson.compact = String.ofList (Json.Layout.none.onto 0 report.toJson []) := by
    unfold Json.compact
    rw [Json.Layout.compactOnto_eq]
  rw [written, String.length_ofList] at deep
  rw [written]
  exact Json.parse?_onto report.natural_toJson .none deep

theorem toJson_eq_of_parse? {report other : Report} {text : String}
    (first : Json.parse? text.length text = some report.toJson)
    (second : Json.parse? text.length text = some other.toJson) : report = other := by
  rw [first] at second
  exact toJson_injective (Option.some.inj second)

/-- The JSON text of a report, indented as a single report is printed or on one line as in a session, is that of
no other report, and it is read back as the tree of the report. Without the blanks outside its strings the
indented text is the one on one line. -/
theorem json_lossless (report : Report) (colour : Bool) :
    (∀ (other : Report) (otherColour : Bool),
      other.print .json otherColour = report.print .json colour ↔ other = report) ∧
    (∀ other : Report, other.toJson.compact = report.toJson.compact ↔ other = report) ∧
    Json.squeeze (report.print .json colour) = report.toJson.compact ∧
    Json.parse? (report.print .json colour).length (report.print .json colour) =
      some report.toJson ∧
    Json.parse? report.toJson.compact.length report.toJson.compact = some report.toJson := by
  have indented (r : Report) (c : Bool) :
      Json.parse? (r.print .json c).length (r.print .json c) = some r.toJson :=
    r.parse?_pretty (Nat.le_refl _)
  have oneLine (r : Report) : Json.parse? r.toJson.compact.length r.toJson.compact = some r.toJson :=
    r.parse?_compact (Nat.le_refl _)
  refine ⟨fun other otherColour => ⟨fun same => ?_, fun same => same ▸ rfl⟩,
    fun other => ⟨fun same => ?_, fun same => same ▸ rfl⟩, ?_, indented report colour,
    oneLine report⟩
  · have read := indented other otherColour
    rw [same] at read
    exact toJson_eq_of_parse? read (indented report colour)
  · have read := oneLine other
    rw [same] at read
    exact toJson_eq_of_parse? read (oneLine report)
  · exact Json.squeeze_pretty report.natural_toJson

example : (⟨some "(a \"b\")", none, 7, .sym "\n\\ "⟩ : Report).toJson.compact =
    Json.squeeze (Report.print .json false ⟨some "(a \"b\")", none, 7, .sym "\n\\ "⟩) := by
  decide +kernel

end Report

end LispHost
