import LispHost.Proofs.Tag.Codes
import Mathlib.Data.Finset.Card

/-!
Runs of inserts into a table of tag codes.

A run may give a tag several codes, and one code to several tags in turn. What a code stands for in the end is
decided by its last insert alone, so a single insert can take the only code of another tag. A search for a known
tag therefore fails exactly if each code the tag was given went on to another tag.

A table is searched in the order of its entries. This order decides which of the codes of a tag is found, and
nothing else: the main statement holds of the entries in any order.
-/

set_option autoImplicit false

namespace LispHost.TagTable

def insertAll (table : TagTable) (inserts : List (Tag × Word)) : TagTable :=
  inserts.foldl (fun table given => table.insert given.1 given.2) table

/-- The last insert of the code gave it to the tag. -/
def LastGiven (inserts : List (Tag × Word)) (code : Word) (tag : Tag) : Prop :=
  ∃ before after, inserts = before ++ (tag, code) :: after ∧ code ∉ after.map Prod.snd

theorem LastGiven.mem {inserts : List (Tag × Word)} {code : Word} {tag : Tag}
    (last : LastGiven inserts code tag) : (tag, code) ∈ inserts := by
  obtain ⟨before, after, rfl, -⟩ := last
  exact List.mem_append_right _ (List.mem_cons_self ..)

theorem exists_lastGiven {inserts : List (Tag × Word)} {code : Word}
    (used : code ∈ inserts.map Prod.snd) : ∃ tag, LastGiven inserts code tag := by
  induction inserts with
  | nil => cases used
  | cons given rest ih =>
    -- the first insert of the run is the last of its code only if the code does not come again
    by_cases again : code ∈ rest.map Prod.snd
    · obtain ⟨tag, before, after, split, last⟩ := ih again
      exact ⟨tag, given :: before, after, by rw [split, List.cons_append], last⟩
    · obtain rfl | later := List.mem_cons.mp used
      · exact ⟨given.1, [], rest, rfl, again⟩
      · exact absurd later again

theorem wellFormed_insertAll {table : TagTable} (wf : table.WellFormed)
    (inserts : List (Tag × Word)) : (table.insertAll inserts).WellFormed := by
  induction inserts generalizing table with
  | nil => exact wf
  | cons given rest ih => exact ih (wf.insert given.1 given.2)

/-- The codes in use after a run are those from before and those of the run. -/
theorem mem_codes_insertAll (table : TagTable) (inserts : List (Tag × Word)) (code : Word) :
    code ∈ (table.insertAll inserts).entries.map Prod.fst ↔
      code ∈ inserts.map Prod.snd ∨ code ∈ table.entries.map Prod.fst := by
  induction inserts generalizing table with
  | nil => exact (or_iff_right List.not_mem_nil).symm
  | cons given rest ih =>
    show code ∈ ((table.insert given.1 given.2).insertAll rest).entries.map Prod.fst ↔ _
    rw [ih, mem_codes_insert, List.map_cons, List.mem_cons, or_assoc]
    exact or_left_comm

theorem classify_insertAll_of_not_mem (table : TagTable) {inserts : List (Tag × Word)} {code : Word}
    (absent : code ∉ inserts.map Prod.snd) :
    (table.insertAll inserts).classify code = table.classify code := by
  induction inserts generalizing table with
  | nil => rfl
  | cons given rest ih =>
    rw [List.map_cons, List.mem_cons, not_or] at absent
    obtain ⟨different, later⟩ := absent
    show ((table.insert given.1 given.2).insertAll rest).classify code = _
    rw [ih (table.insert given.1 given.2) later, classify_insert, if_neg different]

theorem classify_insertAll_of_lastGiven (table : TagTable) {inserts : List (Tag × Word)}
    {code : Word} {tag : Tag} (last : LastGiven inserts code tag) :
    (table.insertAll inserts).classify code = tag := by
  obtain ⟨before, after, rfl, absent⟩ := last
  have split : table.insertAll (before ++ (tag, code) :: after) =
      ((table.insertAll before).insert tag code).insertAll after :=
    List.foldl_append
  rw [split, classify_insertAll_of_not_mem _ absent, classify_insert, if_pos rfl]

theorem LastGiven.unique {inserts : List (Tag × Word)} {code : Word} {first second : Tag}
    (one : LastGiven inserts code first) (two : LastGiven inserts code second) : first = second :=
  (classify_insertAll_of_lastGiven empty one).symm.trans (classify_insertAll_of_lastGiven empty two)

theorem classify_insertAll_eq_iff (table : TagTable) (inserts : List (Tag × Word)) (code : Word)
    (tag : Tag) : (table.insertAll inserts).classify code = tag ↔
      LastGiven inserts code tag ∨ code ∉ inserts.map Prod.snd ∧ tag = table.classify code := by
  constructor
  · rintro rfl
    by_cases used : code ∈ inserts.map Prod.snd
    · obtain ⟨tag, last⟩ := exists_lastGiven used
      exact .inl (classify_insertAll_of_lastGiven table last ▸ last)
    · exact .inr ⟨used, classify_insertAll_of_not_mem table used⟩
  · rintro (last | ⟨absent, rfl⟩)
    · exact classify_insertAll_of_lastGiven table last
    · exact classify_insertAll_of_not_mem table absent

/-- A known tag has no code after a run exactly if each code it was given went on to another tag. -/
theorem unused_insertAll_iff {tag : Tag} (known : tag.Known) (inserts : List (Tag × Word)) :
    (∀ code, (empty.insertAll inserts).classify code ≠ tag) ↔
      ∀ code, (tag, code) ∈ inserts → ∃ other, other ≠ tag ∧ LastGiven inserts code other := by
  constructor
  · intro unused code given
    obtain ⟨other, last⟩ := exists_lastGiven (List.mem_map.mpr ⟨_, given, rfl⟩)
    refine ⟨other, ?_, last⟩
    rintro rfl
    exact unused code (classify_insertAll_of_lastGiven empty last)
  · -- a known tag is not the answer for a bare code, so it was the last to be given this one
    intro givenOn code classified
    obtain last | ⟨-, bare⟩ := (classify_insertAll_eq_iff empty inserts code tag).mp classified
    · obtain ⟨other, different, lastOther⟩ := givenOn code last.mem
      exact different (lastOther.unique last)
    · exact known code bare

theorem WellFormed.size_eq {table : TagTable} (wf : table.WellFormed) :
    table.size = (table.entries.map Prod.fst).toFinset.card := by
  rw [List.toFinset_card_of_nodup wf, List.length_map, size]

/-- After any run of inserts, with the entries in any order: a code stands for the tag of its last insert, or for
itself if it was never inserted. The search for a known tag finds only a code that stands for the tag, and fails
exactly if there is none, which is to say that each code the tag was given went on to another tag. The size is
the number of different codes inserted, and the code of an unknown tag is its own. -/
theorem insertAll_exact (inserts : List (Tag × Word)) (table : TagTable)
    (held : table.entries.Perm (empty.insertAll inserts).entries) :
    (∀ code tag, table.classify code = tag ↔
      LastGiven inserts code tag ∨ code ∉ inserts.map Prod.snd ∧ tag = .unknown code) ∧
    (∀ tag, tag.Known →
      (∀ code, table.codeOf tag = some code → table.classify code = tag) ∧
      (table.codeOf tag = none ↔ ∀ code, table.classify code ≠ tag) ∧
      (table.codeOf tag = none ↔
        ∀ code, (tag, code) ∈ inserts → ∃ other, other ≠ tag ∧ LastGiven inserts code other)) ∧
    table.size = (inserts.map Prod.snd).toFinset.card ∧
    ∀ code, table.codeOf (.unknown code) = some code := by
  have wf_run : (empty.insertAll inserts).WellFormed := wellFormed_insertAll wellFormed_empty inserts
  have wf : table.WellFormed := wf_run.of_perm held
  have classified : ∀ code, table.classify code = (empty.insertAll inserts).classify code :=
    wf_run.classify_of_perm held
  refine ⟨fun code tag => ?_, fun tag known => ⟨fun code => wf.classify_of_codeOf known, ?_, ?_⟩, ?_,
    fun code => rfl⟩
  · rw [classified, classify_insertAll_eq_iff, classify_empty]
  · exact wf.codeOf_eq_none_iff_unused known
  · rw [wf.codeOf_eq_none_iff_unused known, ← unused_insertAll_iff known]
    simp only [classified]
  · have codes : (table.entries.map Prod.fst).toFinset = (inserts.map Prod.snd).toFinset := by
      ext code
      rw [List.mem_toFinset, List.mem_toFinset, (held.map Prod.fst).mem_iff, mem_codes_insertAll]
      exact or_iff_left List.not_mem_nil
    rw [wf.size_eq, codes]

/-- A pair code goes on to an unknown tag and the only symbol code to integers. The search walks the entries from
the newest to the oldest. -/
theorem insertAll_exact_reusedCodes :
    let inserts : List (Tag × Word) :=
      [(.duo, 2), (.sym, 3), (.duo, 5), (.unknown 9, 2), (.int, 3), (.duo, 7)]
    let table : TagTable := ⟨[(7, .duo), (5, .duo), (3, .int), (2, .unknown 9)]⟩
    table.entries.Perm (empty.insertAll inserts).entries ∧ Tag.Known .duo ∧ Tag.Known .sym ∧
      table.classify 2 = .unknown 9 ∧ table.classify 4 = .unknown 4 ∧
      table.codeOf .duo = some 7 ∧ table.classify 7 = .duo ∧ table.codeOf .sym = none ∧
      table.size = 4 ∧ table.codeOf (.unknown 9) = some 9 := by
  intro inserts table
  have held : table.entries.Perm (empty.insertAll inserts).entries := by decide
  have duo_known : Tag.Known .duo := Tag.known_of_rowWidth rfl
  have sym_known : Tag.Known .sym := Tag.known_of_rowWidth rfl
  obtain ⟨classified, searched, size_eq, unknown⟩ := insertAll_exact inserts table held
  have reused : LastGiven inserts 2 (.unknown 9) :=
    ⟨[(.duo, 2), (.sym, 3), (.duo, 5)], [(.int, 3), (.duo, 7)], rfl, by decide⟩
  refine ⟨held, duo_known, sym_known, (classified 2 _).mpr (.inl reused),
    (classified 4 _).mpr (.inr ⟨by decide, rfl⟩), rfl, (searched .duo duo_known).1 7 rfl, ?_, ?_,
    unknown 9⟩
  · refine (searched .sym sym_known).2.2.mpr fun code given => ⟨.int, by decide, ?_⟩
    have only : code = 3 := by simpa [inserts] using given
    exact only ▸ ⟨[(.duo, 2), (.sym, 3), (.duo, 5), (.unknown 9, 2)], [(.duo, 7)], rfl, by decide⟩
  · exact size_eq.trans (by decide)

end LispHost.TagTable
