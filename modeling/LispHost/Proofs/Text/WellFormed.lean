import LispHost.Proofs.Text.Utf8
import Mathlib.Data.List.Forall2

/-!
Well-formed bytes.

The standard lists nine forms of a character, each by the bounds of its bytes. Overlong characters, surrogates
and values above the last code point fit none of them. Bytes are well formed if they are a sequence of such
characters. The decoder, fed one byte at a time, always waits for the rest of some form, so it reads exactly the
well-formed bytes, and what it reads is encoded as the bytes it was read from.
-/

set_option autoImplicit false

namespace LispHost.Text.Utf8

def innerBounds : Nat × Nat := (0x80, 0xBF)

/-- The forms of a character, each by the bounds of its bytes. -/
def forms : List (List (Nat × Nat)) :=
  [[(0x00, 0x7F)],
    [(0xC2, 0xDF), innerBounds],
    [(0xE0, 0xE0), (0xA0, 0xBF), innerBounds],
    [(0xE1, 0xEC), innerBounds, innerBounds],
    [(0xED, 0xED), (0x80, 0x9F), innerBounds],
    [(0xEE, 0xEF), innerBounds, innerBounds],
    [(0xF0, 0xF0), (0x90, 0xBF), innerBounds, innerBounds],
    [(0xF1, 0xF3), innerBounds, innerBounds, innerBounds],
    [(0xF4, 0xF4), (0x80, 0x8F), innerBounds, innerBounds]]

def Within (bounds : Nat × Nat) (b : UInt8) : Prop :=
  bounds.1 ≤ b.toNat ∧ b.toNat ≤ bounds.2

/-- The bytes lie within the bounds of a form, one by one. -/
def Fits (form : List (Nat × Nat)) (bytes : List UInt8) : Prop :=
  List.Forall₂ Within form bytes

/-- Bytes that are a sequence of characters. -/
inductive WellFormed : List UInt8 → Prop
  | nil : WellFormed []
  | character {form : List (Nat × Nat)} {bytes rest : List UInt8} (listed : form ∈ forms)
      (fits : Fits form bytes) (more : WellFormed rest) : WellFormed (bytes ++ rest)

/-! ### Every character of a form is encoded as its bytes -/

private theorem encodeChar_ofNat {n : Nat} (valid : n.isValidChar) :
    encodeChar (Char.ofNat n) =
      if n < 0x80 then [UInt8.ofNat n]
      else if n < 0x800 then [UInt8.ofNat (0xC0 + n / 64), UInt8.ofNat (0x80 + n % 64)]
      else if n < 0x10000 then
        [UInt8.ofNat (0xE0 + n / 4096), UInt8.ofNat (0x80 + n / 64 % 64), UInt8.ofNat (0x80 + n % 64)]
      else [UInt8.ofNat (0xF0 + n / 262144), UInt8.ofNat (0x80 + n / 4096 % 64),
        UInt8.ofNat (0x80 + n / 64 % 64), UInt8.ofNat (0x80 + n % 64)] := by
  have value : (Char.ofNat n).toNat = n := by
    rw [Char.ofNat, dif_pos valid]
    exact UInt32.toNat_ofNatLT ..
  simp only [encodeChar, value, Nat.shiftRight_eq_div_pow, Nat.mul_zero, Nat.mul_one, Nat.pow_zero,
    Nat.div_one, Nat.reduceMul, Nat.reducePow]

private theorem ofNat_eq {n : Nat} {b : UInt8} (value : n = b.toNat) : UInt8.ofNat n = b := by
  rw [value, UInt8.ofNat_toNat]

private theorem fits_cons {x : Nat × Nat} {form : List (Nat × Nat)} {bytes : List UInt8}
    (fits : Fits (x :: form) bytes) : ∃ a rest, bytes = a :: rest ∧ Within x a ∧ Fits form rest := by
  obtain ⟨a, rest, first, more, rfl⟩ := List.forall₂_cons_left_iff.mp fits
  exact ⟨a, rest, rfl, first, more⟩

private theorem fits_one {x : Nat × Nat} {bytes : List UInt8} (fits : Fits [x] bytes) :
    ∃ a, bytes = [a] ∧ Within x a := by
  obtain ⟨a, _, rfl, first, none⟩ := fits_cons fits
  obtain rfl := List.forall₂_nil_left_iff.mp none
  exact ⟨a, rfl, first⟩

private theorem exists_char_of_one {bytes : List UInt8} (fits : Fits [(0x00, 0x7F)] bytes) :
    ∃ c, encodeChar c = bytes := by
  obtain ⟨a, rfl, first⟩ := fits_one fits
  have most : a.toNat ≤ 0x7F := first.2
  refine ⟨Char.ofNat a.toNat, ?_⟩
  rw [encodeChar_ofNat (.inl (by omega)), if_pos (by omega), ofNat_eq rfl]

private theorem exists_char_of_two {bytes : List UInt8}
    (fits : Fits [(0xC2, 0xDF), innerBounds] bytes) : ∃ c, encodeChar c = bytes := by
  obtain ⟨a, _, rfl, first, fits⟩ := fits_cons fits
  obtain ⟨b, rfl, second⟩ := fits_one fits
  simp only [Within, innerBounds] at first second
  obtain ⟨n, value⟩ : ∃ n, n = (a.toNat - 0xC0) * 64 + (b.toNat - 0x80) := ⟨_, rfl⟩
  have first_byte : UInt8.ofNat (0xC0 + n / 64) = a := ofNat_eq (by omega)
  have second_byte : UInt8.ofNat (0x80 + n % 64) = b := ofNat_eq (by omega)
  refine ⟨Char.ofNat n, ?_⟩
  rw [encodeChar_ofNat (.inl (by omega)), if_neg (by omega), if_pos (by omega), first_byte, second_byte]

/-- The second byte is bounded more tightly after the least first byte, and after that of the surrogates. -/
private theorem exists_char_of_three {x y : Nat × Nat} {bytes : List UInt8}
    (fits : Fits [x, y, innerBounds] bytes) (first : 0xE0 ≤ x.1 ∧ x.2 ≤ 0xEF)
    (second : 0x80 ≤ y.1 ∧ y.2 ≤ 0xBF) (long : x.1 ≤ 0xE0 → 0xA0 ≤ y.1)
    (no_surrogate : x.1 ≤ 0xED → 0xED ≤ x.2 → y.2 ≤ 0x9F) : ∃ c, encodeChar c = bytes := by
  obtain ⟨a, _, rfl, at_first, fits⟩ := fits_cons fits
  obtain ⟨b, _, rfl, at_second, fits⟩ := fits_cons fits
  obtain ⟨c, rfl, at_third⟩ := fits_one fits
  simp only [Within, innerBounds] at at_first at_second at_third
  obtain ⟨n, value⟩ :
      ∃ n, n = (a.toNat - 0xE0) * 4096 + (b.toNat - 0x80) * 64 + (c.toNat - 0x80) := ⟨_, rfl⟩
  have valid : n.isValidChar := by
    by_cases before : n < 0xD800
    · exact .inl before
    · exact .inr ⟨by omega, by omega⟩
  have first_byte : UInt8.ofNat (0xE0 + n / 4096) = a := ofNat_eq (by omega)
  have second_byte : UInt8.ofNat (0x80 + n / 64 % 64) = b := ofNat_eq (by omega)
  have third_byte : UInt8.ofNat (0x80 + n % 64) = c := ofNat_eq (by omega)
  refine ⟨Char.ofNat n, ?_⟩
  rw [encodeChar_ofNat valid, if_neg (by omega), if_neg (by omega), if_pos (by omega), first_byte,
    second_byte, third_byte]

/-- The second byte is bounded more tightly after the least first byte and after the greatest. -/
private theorem exists_char_of_four {x y : Nat × Nat} {bytes : List UInt8}
    (fits : Fits [x, y, innerBounds, innerBounds] bytes) (first : 0xF0 ≤ x.1 ∧ x.2 ≤ 0xF4)
    (second : 0x80 ≤ y.1 ∧ y.2 ≤ 0xBF) (long : x.1 ≤ 0xF0 → 0x90 ≤ y.1)
    (small : 0xF4 ≤ x.2 → y.2 ≤ 0x8F) : ∃ c, encodeChar c = bytes := by
  obtain ⟨a, _, rfl, at_first, fits⟩ := fits_cons fits
  obtain ⟨b, _, rfl, at_second, fits⟩ := fits_cons fits
  obtain ⟨c, _, rfl, at_third, fits⟩ := fits_cons fits
  obtain ⟨d, rfl, at_fourth⟩ := fits_one fits
  simp only [Within, innerBounds] at at_first at_second at_third at_fourth
  obtain ⟨n, value⟩ : ∃ n, n = (a.toNat - 0xF0) * 262144 + (b.toNat - 0x80) * 4096 +
      (c.toNat - 0x80) * 64 + (d.toNat - 0x80) := ⟨_, rfl⟩
  have valid : n.isValidChar := .inr ⟨by omega, by omega⟩
  have first_byte : UInt8.ofNat (0xF0 + n / 262144) = a := ofNat_eq (by omega)
  have second_byte : UInt8.ofNat (0x80 + n / 4096 % 64) = b := ofNat_eq (by omega)
  have third_byte : UInt8.ofNat (0x80 + n / 64 % 64) = c := ofNat_eq (by omega)
  have fourth_byte : UInt8.ofNat (0x80 + n % 64) = d := ofNat_eq (by omega)
  refine ⟨Char.ofNat n, ?_⟩
  rw [encodeChar_ofNat valid, if_neg (by omega), if_neg (by omega), if_neg (by omega), first_byte,
    second_byte, third_byte, fourth_byte]

theorem exists_char_of_fits {form : List (Nat × Nat)} {bytes : List UInt8}
    (listed : form ∈ forms) (fits : Fits form bytes) : ∃ c, encodeChar c = bytes := by
  simp only [forms, List.mem_cons, List.not_mem_nil, or_false] at listed
  rcases listed with rfl | rfl | rfl | rfl | rfl | rfl | rfl | rfl | rfl
  · exact exists_char_of_one fits
  · exact exists_char_of_two fits
  · exact exists_char_of_three fits (by decide) (by decide) (by decide) (by decide)
  · exact exists_char_of_three fits (by decide) (by decide) (by decide) (by decide)
  · exact exists_char_of_three fits (by decide) (by decide) (by decide) (by decide)
  · exact exists_char_of_three fits (by decide) (by decide) (by decide) (by decide)
  · exact exists_char_of_four fits (by decide) (by decide) (by decide) (by decide)
  · exact exists_char_of_four fits (by decide) (by decide) (by decide) (by decide)
  · exact exists_char_of_four fits (by decide) (by decide) (by decide) (by decide)

theorem exists_encode_of_wellFormed {data : List UInt8} (wf : WellFormed data) :
    ∃ text, encode text = data := by
  induction wf with
  | nil => exact ⟨"", rfl⟩
  | character listed fits more ih =>
    obtain ⟨c, first⟩ := exists_char_of_fits listed fits
    obtain ⟨text, rest⟩ := ih
    refine ⟨String.ofList (c :: text.toList), ?_⟩
    rw [encode, String.toList_ofList, List.flatMap_cons, first, ← encode, rest]

/-! ### The decoder reads exactly the well-formed bytes -/

def State.lacks : State → List (Nat × Nat)
  | .idle => []
  | .within _ need low high _ => (low, high) :: List.replicate (need - 1) innerBounds

private def Quiet (events : List Event) : Prop :=
  events = [] ∨ ∃ c, events = [.char c]

/-- A byte opens a form, and the decoder goes on to what the form still lacks. -/
private def Opens (b : UInt8) (fed : List Event × State) : Prop :=
  Quiet fed.1 ∧ ∃ bounds, Within bounds b ∧ bounds :: fed.2.lacks ∈ forms

private theorem opens_of_form (bounds : Nat × Nat) {need low high bits : Nat} {b : UInt8}
    (within : Within bounds b)
    (listed : bounds :: (low, high) :: List.replicate (need - 1) innerBounds ∈ forms) :
    Opens b ([], .within 1 need low high bits) :=
  ⟨.inl rfl, bounds, within, listed⟩

private theorem start_cases (b : UInt8) : start b = ([.invalid 1], .idle) ∨ Opens b (start b) := by
  simp only [start]
  split_ifs with ascii tail two least surrogate three four_least four greatest
  · have listed : [(0x00, 0x7F)] ∈ forms := by decide
    exact .inr ⟨.inr ⟨_, rfl⟩, (0x00, 0x7F), ⟨Nat.zero_le _, by omega⟩, listed⟩
  · exact .inl rfl
  · exact .inr (opens_of_form (0xC2, 0xDF) ⟨by omega, by omega⟩ (by decide))
  · exact .inr (opens_of_form (0xE0, 0xE0) ⟨by omega, by omega⟩ (by decide))
  · exact .inr (opens_of_form (0xED, 0xED) ⟨by omega, by omega⟩ (by decide))
  · by_cases below : b.toNat < 0xED
    · exact .inr (opens_of_form (0xE1, 0xEC) ⟨by omega, by omega⟩ (by decide))
    · exact .inr (opens_of_form (0xEE, 0xEF) ⟨by omega, by omega⟩ (by decide))
  · exact .inr (opens_of_form (0xF0, 0xF0) ⟨by omega, by omega⟩ (by decide))
  · exact .inr (opens_of_form (0xF1, 0xF3) ⟨by omega, by omega⟩ (by decide))
  · exact .inr (opens_of_form (0xF4, 0xF4) ⟨by omega, by omega⟩ (by decide))
  · exact .inl rfl

private theorem feed_within (seen need low high bits : Nat) (b : UInt8) :
    let fed := (State.within seen need low high bits).feed b
    (∃ events, fed.1 = .invalid seen :: events) ∨
      Quiet fed.1 ∧ ∃ bounds, Within bounds b ∧
        (State.within seen need low high bits).lacks = bounds :: fed.2.lacks := by
  simp only [State.feed]
  split_ifs with inside last
  · have nothing : need - 1 = 0 := by omega
    refine .inr ⟨.inr ⟨_, rfl⟩, (low, high), inside, ?_⟩
    show (low, high) :: List.replicate (need - 1) innerBounds = [(low, high)]
    rw [nothing, List.replicate_zero]
  · have more : need - 1 = need - 1 - 1 + 1 := by omega
    refine .inr ⟨.inl rfl, (low, high), inside, ?_⟩
    show (low, high) :: List.replicate (need - 1) innerBounds =
      (low, high) :: innerBounds :: List.replicate (need - 1 - 1) innerBounds
    rw [more, List.replicate_succ, Nat.add_sub_cancel]
  · exact .inl ⟨_, rfl⟩

private theorem charsOf?_append {events more : List Event} {chars : List Char}
    (quiet : Quiet events) (read : charsOf? (events ++ more) = some chars) :
    ∃ later, charsOf? more = some later := by
  rcases quiet with rfl | ⟨c, rfl⟩
  · exact ⟨chars, read⟩
  · obtain ⟨later, found, -⟩ := Option.map_eq_some_iff.mp read
    exact ⟨later, found⟩

/-- What is read to the end completes the character at hand and goes on with whole ones. -/
theorem completes_of_charsOf? {s : State} {data : List UInt8} {chars : List Char}
    (read : charsOf? (eventsFrom s data) = some chars) :
    ∃ front rest, data = front ++ rest ∧ Fits s.lacks front ∧ WellFormed rest := by
  induction data generalizing s chars with
  | nil =>
    cases s with
    | idle => exact ⟨[], [], rfl, .nil, .nil⟩
    | within seen need low high bits => cases read
  | cons b data ih =>
    rw [eventsFrom_cons] at read
    cases s with
    | idle =>
      rcases start_cases b with refused | ⟨quiet, bounds, within, listed⟩
      · rw [State.feed, refused] at read
        cases read
      · obtain ⟨later, read⟩ := charsOf?_append quiet read
        obtain ⟨front, rest, rfl, fits, wf⟩ := ih read
        exact ⟨[], b :: (front ++ rest), rfl, .nil, .character listed (.cons within fits) wf⟩
    | within seen need low high bits =>
      rcases feed_within seen need low high bits b with ⟨events, refused⟩ | ⟨quiet, bounds, within, lacks⟩
      · rw [refused] at read
        cases read
      · obtain ⟨later, read⟩ := charsOf?_append quiet read
        obtain ⟨front, rest, rfl, fits, wf⟩ := ih read
        exact ⟨b :: front, rest, rfl, lacks ▸ .cons within fits, wf⟩

theorem wellFormed_of_decode? {data : List UInt8} {text : String}
    (read : decode? data = some text) : WellFormed data := by
  obtain ⟨chars, read, -⟩ := Option.map_eq_some_iff.mp read
  obtain ⟨front, rest, rfl, fits, wf⟩ := completes_of_charsOf? read
  obtain rfl := List.forall₂_nil_left_iff.mp fits
  exact wf

/-- Bytes are read as a text if and only if the text is encoded as them. -/
theorem decode?_eq_some_iff {data : List UInt8} {text : String} :
    decode? data = some text ↔ encode text = data := by
  constructor
  · intro read
    obtain ⟨written, rfl⟩ := exists_encode_of_wellFormed (wellFormed_of_decode? read)
    rw [decode?_encode] at read
    rw [Option.some.inj read]
  · rintro rfl
    exact decode?_encode text

theorem decode?_eq_none_iff {data : List UInt8} : decode? data = none ↔ ¬ WellFormed data := by
  constructor
  · intro unread wf
    obtain ⟨text, same⟩ := exists_encode_of_wellFormed wf
    cases unread.symm.trans (decode?_eq_some_iff.mpr same)
  · intro broken
    by_contra read
    obtain ⟨text, read⟩ := Option.ne_none_iff_exists'.mp read
    exact broken (wellFormed_of_decode? read)

end LispHost.Text.Utf8
