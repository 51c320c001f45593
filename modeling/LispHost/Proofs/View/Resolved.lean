import LispHost.Proofs.Guest.Calls
import LispHost.Proofs.Tag.Codes
import LispHost.View

/-!
Resolved contexts.

Whatever codes a guest exports, the names are looked up for four different tags, each once. So at most
one code belongs to each tag in the end, although a later tag may have taken it, and the accessors of
a resolved context answer one word each.
-/

set_option autoImplicit false

namespace LispHost

variable {σ : Type}

theorem exists_of_bind_eq_ok {α β : Type} {x : Except Error α} {f : α → Except Error β} {b : β}
    (ok : x >>= f = .ok b) : ∃ a, x = .ok a ∧ f a = .ok b := by
  cases x with
  | error e => cases ok
  | ok a => exact ⟨a, rfl, ok⟩

theorem error_of_bind_eq_error {α β : Type} {x : Except Error α} {f : α → Except Error β} {e : Error}
    (failed : x >>= f = .error e) : x = .error e ∨ ∃ a, x = .ok a ∧ f a = .error e := by
  cases x with
  | error first =>
    cases failed
    exact .inl rfl
  | ok a => exact .inr ⟨a, rfl, failed⟩

namespace DecodingContext

/-- Looking up the names of different tags that are not in use keeps the table invertible: each step
gives a code to one of them and leaves the others without. -/
theorem invertible_of_resolveTags {guest : Guest σ} {names : List (Tag × String)}
    {table tags : TagTable} (invertible : table.Invertible)
    (distinct : (names.map Prod.fst).Nodup)
    (unused : ∀ tag ∈ names.map Prod.fst, ∀ code, table.classify code ≠ tag)
    (resolved : resolveTags guest table names = .ok tags) : tags.Invertible := by
  induction names generalizing table with
  | nil =>
    cases resolved
    exact invertible
  | cons entry rest ih =>
    obtain ⟨tag, name⟩ := entry
    obtain ⟨fresh, rest_distinct⟩ := List.nodup_cons.mp distinct
    have rest_unused : ∀ tag ∈ rest.map Prod.fst, ∀ code, table.classify code ≠ tag :=
      fun tag member => unused tag (List.mem_cons_of_mem _ member)
    rw [resolveTags] at resolved
    split at resolved
    · rename_i code exported
      have inserted := invertible.insert (unused tag (List.mem_cons_self ..)) code
      refine ih inserted rest_distinct ?_ resolved
      intro other member asked
      rw [TagTable.classify_insert]
      split
      · rintro rfl
        exact fresh member
      · exact rest_unused other member asked
    · exact ih invertible rest_distinct rest_unused resolved
    · cases resolved

structure Sound (ctx : DecodingContext σ) : Prop where
  tagOf : ctx.tagOf.results = [.i32]
  row : ctx.row.results = [.i32]
  string : ctx.string.results = [.i32]
  tags : ctx.tags.Invertible

theorem sound_of_resolve {guest : Guest σ} {abi : Abi} {ctx : DecodingContext σ}
    (resolved : resolve guest abi = .ok ctx) : ctx.Sound := by
  rw [resolve] at resolved
  obtain ⟨tagOf, tagOf_found, resolved⟩ := exists_of_bind_eq_ok resolved
  obtain ⟨row, row_found, resolved⟩ := exists_of_bind_eq_ok resolved
  obtain ⟨string, string_found, resolved⟩ := exists_of_bind_eq_ok resolved
  obtain ⟨tags, codes, resolved⟩ := exists_of_bind_eq_ok resolved
  obtain ⟨nil, -, resolved⟩ := exists_of_bind_eq_ok resolved
  obtain ⟨t, -, resolved⟩ := exists_of_bind_eq_ok resolved
  cases resolved
  have distinct : (abi.tagNames.map Prod.fst).Nodup := by
    change [Tag.int, Tag.sys, Tag.duo, Tag.sym].Nodup
    decide
  have unused : ∀ tag ∈ abi.tagNames.map Prod.fst, ∀ code, TagTable.empty.classify code ≠ tag := by
    rintro tag member code rfl
    change Tag.unknown code ∈ [Tag.int, Tag.sys, Tag.duo, Tag.sym] at member
    simp only [List.mem_cons, List.not_mem_nil, reduceCtorEq, or_self] at member
  exact {
    tagOf := Guest.results_of_wordFunc tagOf_found
    row := Guest.results_of_wordFunc row_found
    string := Guest.results_of_wordFunc string_found
    tags := invertible_of_resolveTags TagTable.invertible_empty distinct unused codes }

end DecodingContext

end LispHost
