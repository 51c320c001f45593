import LispHost.Tag

/-!
Tables of tag codes.

A table is a map from codes to tags in which one code has one tag: it keeps one entry for each code,
and giving a code to a tag changes the answer for that code alone. The order of the entries does not
matter for this. The search for the code of a tag answers a code that the table gives to the tag, if
there is one. A tag that was given one code has no
other, so for it the search and the table are inverse to each other.
-/

set_option autoImplicit false

namespace LispHost

def Tag.Known (tag : Tag) : Prop :=
  ∀ code, tag ≠ .unknown code

theorem Tag.known_of_rowWidth {tag : Tag} {width : Nat} (wide : tag.rowWidth = some width) :
    tag.Known := by
  rintro code rfl
  cases wide

namespace TagTable

private theorem lookup_cons_eq_ite (key : Word) (tag : Tag) (rest : List (Word × Tag))
    (asked : Word) :
    ((key, tag) :: rest).lookup asked = if asked = key then some tag else rest.lookup asked := by
  rw [List.lookup_cons]
  by_cases same : asked = key
  · rw [if_pos same, beq_iff_eq.mpr same]
  · rw [if_neg same, beq_eq_false_iff_ne.mpr same]

private theorem lookup_put (tag : Tag) (code asked : Word) (entries : List (Word × Tag)) :
    (put tag code entries).lookup asked =
      if asked = code then some tag else entries.lookup asked := by
  induction entries with
  | nil => rw [put, lookup_cons_eq_ite]
  | cons entry rest ih =>
    obtain ⟨key, named⟩ := entry
    rw [put]
    by_cases found : key = code
    · subst found
      rw [if_pos rfl, lookup_cons_eq_ite, lookup_cons_eq_ite]
      by_cases same : asked = key
      · rw [if_pos same, if_pos same]
      · rw [if_neg same, if_neg same, if_neg same]
    · rw [if_neg found, lookup_cons_eq_ite, lookup_cons_eq_ite, ih]
      by_cases same : asked = key
      · rw [if_pos same, if_pos same, if_neg (same ▸ found)]
      · rw [if_neg same, if_neg same]

private theorem mem_keys_put {tag : Tag} {code key : Word} {entries : List (Word × Tag)} :
    key ∈ (put tag code entries).map Prod.fst ↔ key = code ∨ key ∈ entries.map Prod.fst := by
  induction entries with
  | nil => rw [put, List.map_singleton, List.mem_singleton, List.map_nil, or_iff_left List.not_mem_nil]
  | cons entry rest ih =>
    rw [put, List.map_cons, List.mem_cons]
    split
    · rename_i same
      rw [List.map_cons, List.mem_cons, same, ← or_assoc, or_self]
    · rw [List.map_cons, List.mem_cons, ih, or_left_comm]

private theorem nodup_keys_put {entries : List (Word × Tag)}
    (nodup : (entries.map Prod.fst).Nodup) (tag : Tag) (code : Word) :
    ((put tag code entries).map Prod.fst).Nodup := by
  induction entries with
  | nil => exact List.pairwise_singleton ..
  | cons entry rest ih =>
    obtain ⟨fresh, rest_nodup⟩ := List.nodup_cons.mp nodup
    rw [put]
    split
    · rename_i same
      exact List.nodup_cons.mpr ⟨same ▸ fresh, rest_nodup⟩
    · rename_i different
      refine List.nodup_cons.mpr ⟨fun member => ?_, ih rest_nodup⟩
      rcases mem_keys_put.mp member with same | earlier
      · exact different same
      · exact fresh earlier

private theorem lookup_of_mem {entries : List (Word × Tag)}
    (nodup : (entries.map Prod.fst).Nodup) {code : Word} {tag : Tag}
    (member : (code, tag) ∈ entries) : entries.lookup code = some tag := by
  induction entries with
  | nil => cases member
  | cons entry rest ih =>
    obtain ⟨fresh, rest_nodup⟩ := List.nodup_cons.mp nodup
    rcases List.mem_cons.mp member with same | later
    · subst same
      exact List.lookup_cons_self
    · have different : code ≠ entry.1 := by
        rintro rfl
        exact fresh (List.mem_map.mpr ⟨_, later, rfl⟩)
      rw [lookup_cons_eq_ite, if_neg different]
      exact ih rest_nodup later

private theorem mem_of_lookup {entries : List (Word × Tag)} {code : Word} {tag : Tag}
    (found : entries.lookup code = some tag) : (code, tag) ∈ entries := by
  obtain ⟨before, after, split, -⟩ := List.lookup_eq_some_iff.mp found
  rw [split]
  exact List.mem_append_right _ (List.mem_cons_self ..)

/-- One entry for each code. -/
def WellFormed (table : TagTable) : Prop :=
  (table.entries.map Prod.fst).Nodup

theorem wellFormed_empty : empty.WellFormed :=
  List.nodup_nil

theorem WellFormed.insert {table : TagTable} (wf : table.WellFormed) (tag : Tag) (code : Word) :
    (table.insert tag code).WellFormed :=
  nodup_keys_put wf tag code

theorem mem_codes_insert (table : TagTable) (tag : Tag) (code asked : Word) :
    asked ∈ (table.insert tag code).entries.map Prod.fst ↔
      asked = code ∨ asked ∈ table.entries.map Prod.fst :=
  mem_keys_put

@[simp] theorem classify_empty (code : Word) : empty.classify code = .unknown code :=
  rfl

theorem classify_insert (table : TagTable) (tag : Tag) (code asked : Word) :
    (table.insert tag code).classify asked = if asked = code then tag else table.classify asked := by
  rw [classify, insert, lookup_put]
  by_cases same : asked = code
  · simp only [if_pos same]
  · simp only [if_neg same, classify]

theorem WellFormed.classify_of_mem {table : TagTable} (wf : table.WellFormed) {code : Word}
    {tag : Tag} (member : (code, tag) ∈ table.entries) : table.classify code = tag := by
  rw [classify, lookup_of_mem wf member]

theorem classify_of_not_mem {table : TagTable} {code : Word}
    (absent : code ∉ table.entries.map Prod.fst) : table.classify code = .unknown code := by
  cases found : table.entries.lookup code with
  | none => rw [classify, found]
  | some tag => exact absurd (List.mem_map.mpr ⟨_, mem_of_lookup found, rfl⟩) absent

theorem WellFormed.of_perm {table other : TagTable} (wf : table.WellFormed)
    (reordered : other.entries.Perm table.entries) : other.WellFormed :=
  (reordered.map Prod.fst).nodup_iff.mpr wf

theorem WellFormed.classify_of_perm {table other : TagTable} (wf : table.WellFormed)
    (reordered : other.entries.Perm table.entries) (code : Word) :
    other.classify code = table.classify code := by
  by_cases used : code ∈ table.entries.map Prod.fst
  · obtain ⟨⟨code, tag⟩, member, rfl⟩ := List.mem_map.mp used
    rw [wf.classify_of_mem member,
      (wf.of_perm reordered).classify_of_mem (reordered.mem_iff.mpr member)]
  · have absent : code ∉ other.entries.map Prod.fst := by
      rwa [(reordered.map Prod.fst).mem_iff]
    rw [classify_of_not_mem used, classify_of_not_mem absent]

private theorem codeOf_of_known (table : TagTable) {tag : Tag} (known : tag.Known) :
    table.codeOf tag = (table.entries.find? fun entry => entry.2 = tag).map Prod.fst := by
  cases tag with
  | unknown code => exact absurd rfl (known code)
  | _ => rfl

theorem WellFormed.classify_of_codeOf {table : TagTable} (wf : table.WellFormed) {tag : Tag}
    (known : tag.Known) {code : Word} (found : table.codeOf tag = some code) :
    table.classify code = tag := by
  rw [table.codeOf_of_known known] at found
  obtain ⟨entry, answer, rfl⟩ := Option.map_eq_some_iff.mp found
  have named := List.find?_some answer
  simp only [decide_eq_true_eq] at named
  exact (wf.classify_of_mem (List.mem_of_find?_eq_some answer)).trans named

theorem codeOf_eq_none_iff (table : TagTable) {tag : Tag} (known : tag.Known) :
    table.codeOf tag = none ↔ ∀ entry ∈ table.entries, entry.2 ≠ tag := by
  rw [table.codeOf_of_known known, Option.map_eq_none_iff, List.find?_eq_none]
  simp only [decide_eq_true_eq, ne_eq]

theorem exists_codeOf {table : TagTable} {code : Word} {tag : Tag}
    (known : tag.Known) (classified : table.classify code = tag) :
    ∃ found, table.codeOf tag = some found := by
  cases answer : table.codeOf tag with
  | some found => exact ⟨found, rfl⟩
  | none =>
    have absent := (table.codeOf_eq_none_iff known).mp answer
    rw [classify] at classified
    split at classified
    · rename_i named found
      exact absurd classified (absent _ (mem_of_lookup found))
    · exact absurd classified.symm (known code)

theorem WellFormed.codeOf_eq_none_iff_unused {table : TagTable} (wf : table.WellFormed) {tag : Tag}
    (known : tag.Known) : table.codeOf tag = none ↔ ∀ code, table.classify code ≠ tag := by
  constructor
  · intro nothing code classified
    obtain ⟨found, answer⟩ := exists_codeOf known classified
    cases nothing.symm.trans answer
  · intro unused
    cases answer : table.codeOf tag with
    | none => rfl
    | some found => exact absurd (wf.classify_of_codeOf known answer) (unused found)

/-- At most one code belongs to the tag. -/
def OneCode (table : TagTable) (tag : Tag) : Prop :=
  ∀ first second, table.classify first = tag → table.classify second = tag → first = second

theorem WellFormed.codeOf_of_classify {table : TagTable} (wf : table.WellFormed) {tag : Tag}
    (known : tag.Known) (single : table.OneCode tag) {code : Word}
    (classified : table.classify code = tag) : table.codeOf tag = some code := by
  obtain ⟨found, answer⟩ := exists_codeOf known classified
  rw [answer, single found code (wf.classify_of_codeOf known answer) classified]

theorem oneCode_insert_self {table : TagTable} {tag : Tag}
    (unused : ∀ code, table.classify code ≠ tag) (code : Word) :
    (table.insert tag code).OneCode tag := by
  have only : ∀ asked, (table.insert tag code).classify asked = tag → asked = code := by
    intro asked classified
    rw [classify_insert] at classified
    split at classified
    · assumption
    · exact absurd classified (unused asked)
  intro first second first_of second_of
  rw [only first first_of, only second second_of]

/-- Giving a code to another tag may take the one code of a tag, and gives it none. -/
theorem OneCode.insert_of_ne {table : TagTable} {tag other : Tag} (single : table.OneCode tag)
    (different : other ≠ tag) (code : Word) : (table.insert other code).OneCode tag := by
  have before : ∀ asked, (table.insert other code).classify asked = tag →
      table.classify asked = tag := by
    intro asked classified
    rw [classify_insert] at classified
    split at classified
    · exact absurd classified different
    · exact classified
  exact fun first second first_of second_of =>
    single first second (before first first_of) (before second second_of)

/-- One entry for each code, and at most one code for each known tag. -/
structure Invertible (table : TagTable) : Prop where
  wellFormed : table.WellFormed
  oneCode (tag : Tag) : tag.Known → table.OneCode tag

theorem invertible_empty : empty.Invertible where
  wellFormed := wellFormed_empty
  oneCode _ known first _ first_of _ := absurd first_of.symm (known first)

theorem Invertible.insert {table : TagTable} (invertible : table.Invertible) {tag : Tag}
    (unused : ∀ code, table.classify code ≠ tag) (code : Word) :
    (table.insert tag code).Invertible where
  wellFormed := invertible.wellFormed.insert tag code
  oneCode other known := by
    by_cases same : tag = other
    · subst same
      exact oneCode_insert_self unused code
    · exact (invertible.oneCode other known).insert_of_ne same code

theorem Invertible.codeOf_classify {table : TagTable} (invertible : table.Invertible) {code : Word}
    {tag : Tag} (known : tag.Known) (classified : table.classify code = tag) :
    table.codeOf tag = some code :=
  invertible.wellFormed.codeOf_of_classify known (invertible.oneCode tag known) classified

end TagTable

end LispHost
