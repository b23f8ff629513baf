import SqlTemplate.Number.Numeral
import SqlTemplate.Proofs.Trimming
import Mathlib.Data.Nat.Digits.Defs

/-!
# What numerals write

The reader of numerals goes over a text and keeps a value. What a text writes is said here without
it: **the digits have values, and the number is theirs in base ten**, highest first, with the sign
before it. The reader gives a number just for the texts that write one, and gives that one.
-/

set_option autoImplicit false

namespace SqlTemplate
namespace Numeral

/-- What may follow a digit, and the values of its digits: more digits, single underscores between
them. -/
inductive More : List Char → List Nat → Prop where
  | done : More [] []
  | digit {c : Char} {cs : List Char} {d : Nat} {ds : List Nat} (hd : Text.digitValue? c = some d)
      (hmore : More cs ds) : More (c :: cs) (d :: ds)
  | apart {c : Char} {cs : List Char} {d : Nat} {ds : List Nat} (hd : Text.digitValue? c = some d)
      (hmore : More cs ds) : More ('_' :: c :: cs) (d :: ds)

/-- Digits with single underscores between them write a natural. -/
def WritesDigits (cs : List Char) (n : Nat) : Prop :=
  ∃ c rest d ds, cs = c :: rest ∧ Text.digitValue? c = some d ∧ More rest ds ∧
    n = Nat.ofDigits 10 (d :: ds).reverse

/-- Digits write an integer, with a sign directly before them or without one. -/
inductive WritesSigned : List Char → Int → Prop where
  | bare {cs : List Char} {n : Nat} (h : WritesDigits cs n) : WritesSigned cs n
  | plus {cs : List Char} {n : Nat} (h : WritesDigits cs n) : WritesSigned ('+' :: cs) n
  | minus {cs : List Char} {n : Nat} (h : WritesDigits cs n) : WritesSigned ('-' :: cs) (-n)

/-- A text writes an integer, with padding around it or without. -/
def Writes (cs : List Char) (n : Int) : Prop :=
  ∃ before body after, cs = before ++ body ++ after ∧ (∀ c ∈ before, isPadding c = true) ∧
    (∀ c ∈ after, isPadding c = true) ∧ WritesSigned body n

/-! ## The characters of numerals -/

/-- No blank stands among the ten digits of a script. -/
theorem digitZeros_apart : ∀ nought ∈ Text.digitZeros, 0x20 < nought ∧
    (nought + 9 < 0x7F ∨ 0xA0 < nought) ∧ (nought + 9 < 0x1680 ∨ 0x1680 < nought) ∧
    (nought + 9 < 0x2000 ∨ 0x205F < nought) ∧ (nought + 9 < 0x3000 ∨ 0x3000 < nought) := by
  decide

theorem digit_cases {c : Char} {d : Nat} (h : Text.digitValue? c = some d) :
    ∃ nought ∈ Text.digitZeros, nought ≤ c.toNat ∧ c.toNat ≤ nought + 9 := by
  simp only [Text.digitValue?, Option.map_eq_some_iff] at h
  obtain ⟨nought, hfound, -⟩ := h
  refine ⟨nought, List.mem_of_find?_eq_some hfound, ?_⟩
  simpa using List.find?_some hfound

theorem not_isPadding_of_digit {c : Char} {d : Nat} (h : Text.digitValue? c = some d) :
    isPadding c = false := by
  obtain ⟨nought, hmem, hlow, hhigh⟩ := digit_cases h
  obtain ⟨hspace, hcontrol, hogham, hspaces, hideographic⟩ := digitZeros_apart nought hmem
  have hne : c ≠ ' ' := by
    rintro rfl
    exact absurd (hspace.trans_le hlow) (by decide)
  unfold isPadding Text.isBlank
  split
  · simp only [Bool.or_eq_false_iff, Bool.and_eq_false_iff, decide_eq_false_iff_not]
    exact ⟨by omega, hne⟩
  · simp only [Bool.or_eq_false_iff, Bool.and_eq_false_iff, decide_eq_false_iff_not,
      beq_eq_false_iff_ne]
    omega

theorem digit_ne_delete {c : Char} {d : Nat} (h : Text.digitValue? c = some d) :
    c.toNat ≠ 0x7F := by
  obtain ⟨nought, hmem, hlow, hhigh⟩ := digit_cases h
  obtain ⟨-, hcontrol, -⟩ := digitZeros_apart nought hmem
  omega

section Marks

variable {q : Char → Prop} (hdigit : ∀ {c d}, Text.digitValue? c = some d → q c) {cs : List Char}
include hdigit

theorem More.forall_mem (hunderscore : q '_') {ds : List Nat} (h : More cs ds) :
    ∀ c ∈ cs, q c := by
  induction h with
  | done => simp
  | digit hd _ ih => simpa using ⟨hdigit hd, ih⟩
  | apart hd _ ih => simpa using ⟨hunderscore, hdigit hd, ih⟩

theorem WritesDigits.forall_mem (hunderscore : q '_') {m : Nat} (h : WritesDigits cs m) :
    ∀ c ∈ cs, q c := by
  obtain ⟨c, rest, d, ds, rfl, hd, hrest, -⟩ := h
  simpa using ⟨hdigit hd, hrest.forall_mem hdigit hunderscore⟩

/-- What holds of the underscore, of signs and of digits holds throughout a numeral. -/
theorem WritesSigned.forall_mem (hmark : q '_' ∧ q '+' ∧ q '-') {n : Int}
    (h : WritesSigned cs n) : ∀ c ∈ cs, q c := by
  cases h with
  | bare h => exact h.forall_mem hdigit hmark.1
  | plus h => simpa using ⟨hmark.2.1, h.forall_mem hdigit hmark.1⟩
  | minus h => simpa using ⟨hmark.2.2, h.forall_mem hdigit hmark.1⟩

end Marks

theorem WritesSigned.ne_nil {cs : List Char} {n : Int} (h : WritesSigned cs n) : cs ≠ [] := by
  cases h with
  | bare h =>
    obtain ⟨c, rest, d, ds, rfl, -⟩ := h
    exact List.cons_ne_nil _ _
  | plus | minus => exact List.cons_ne_nil _ _

/-! ## The reader -/

theorem ofDigits_reverse (ds : List Nat) :
    Nat.ofDigits 10 ds.reverse = ds.foldl (fun value d => 10 * value + d) 0 := by
  rw [Nat.ofDigits_eq_foldr, List.foldr_reverse]
  simp only [Nat.cast_id, Nat.add_comm]

/-- The underscore and the signs are no digits. -/
theorem digitValue?_mark : Text.digitValue? '_' = none ∧ Text.digitValue? '+' = none ∧
    Text.digitValue? '-' = none := by
  decide

/-- Reading goes on from a value just over what may follow a digit. -/
theorem readMore_eq_some_iff {cs : List Char} {soFar n : Nat} :
    readMore soFar cs = some n ↔
      ∃ ds, More cs ds ∧ n = ds.foldl (fun value d => 10 * value + d) soFar := by
  induction soFar, cs using readMore.induct with
  | case1 soFar =>
    simp only [readMore, Option.some.injEq]
    constructor
    · rintro rfl
      exact ⟨[], .done, rfl⟩
    · rintro ⟨ds, hmore, rfl⟩
      cases hmore
      rfl
  | case2 soFar c rest d hd ih =>
    simp only [readMore, hd]
    rw [ih]
    constructor
    · rintro ⟨ds, hmore, rfl⟩
      exact ⟨d :: ds, .apart hd hmore, rfl⟩
    · rintro ⟨ds, hmore, rfl⟩
      cases hmore with
      | digit hd' _ => simp [digitValue?_mark] at hd'
      | apart hd' hmore =>
        cases hd.symm.trans hd'
        exact ⟨_, hmore, rfl⟩
  | case3 soFar c rest hd =>
    simp only [readMore, hd]
    constructor
    · rintro ⟨⟩
    · rintro ⟨ds, hmore, rfl⟩
      cases hmore with
      | digit hd' _ => simp [digitValue?_mark] at hd'
      | apart hd' _ => simp [hd] at hd'
  | case4 soFar c rest hapart d hd ih =>
    rw [readMore.eq_3 _ _ _ hapart, hd]
    show readMore _ rest = some n ↔ _
    rw [ih]
    constructor
    · rintro ⟨ds, hmore, rfl⟩
      exact ⟨d :: ds, .digit hd hmore, rfl⟩
    · rintro ⟨ds, hmore, rfl⟩
      cases hmore with
      | digit hd' hmore =>
        cases hd.symm.trans hd'
        exact ⟨_, hmore, rfl⟩
      | apart _ _ => exact (hapart _ _ rfl rfl).elim
  | case5 soFar c rest hapart hd =>
    rw [readMore.eq_3 _ _ _ hapart, hd]
    show none = some n ↔ _
    constructor
    · rintro ⟨⟩
    · rintro ⟨ds, hmore, rfl⟩
      cases hmore with
      | digit hd' _ => simp [hd] at hd'
      | apart _ _ => exact (hapart _ _ rfl rfl).elim

theorem readDigits?_eq_some_iff {cs : List Char} {n : Nat} :
    readDigits? cs = some n ↔ WritesDigits cs n := by
  cases cs with
  | nil =>
    constructor
    · rintro ⟨⟩
    · rintro ⟨_, _, _, _, ⟨⟩, -⟩
  | cons c rest =>
    constructor
    · intro h
      cases hd : Text.digitValue? c with
      | none => simp [readDigits?, hd] at h
      | some d =>
        simp only [readDigits?, hd] at h
        obtain ⟨ds, hmore, rfl⟩ := readMore_eq_some_iff.mp h
        refine ⟨c, rest, d, ds, rfl, hd, hmore, ?_⟩
        rw [ofDigits_reverse, List.foldl_cons, Nat.mul_zero, Nat.zero_add]
    · rintro ⟨_, _, d, ds, ⟨⟩, hd, hmore, rfl⟩
      simp only [readDigits?, hd]
      refine readMore_eq_some_iff.mpr ⟨ds, hmore, ?_⟩
      rw [ofDigits_reverse, List.foldl_cons, Nat.mul_zero, Nat.zero_add]

theorem readSigned?_eq_some_iff {cs : List Char} {n : Int} :
    readSigned? cs = some n ↔ WritesSigned cs n := by
  constructor
  · intro h
    unfold readSigned? at h
    split at h <;>
      obtain ⟨m, hm, rfl⟩ := Option.map_eq_some_iff.mp h <;>
      obtain ⟨k, hk, hcast⟩ := Option.bind_eq_some_iff.mp hm <;>
      cases Option.some.inj hcast
    · exact .minus (readDigits?_eq_some_iff.mp hk)
    · exact .plus (readDigits?_eq_some_iff.mp hk)
    · exact .bare (readDigits?_eq_some_iff.mp hk)
  · intro h
    cases h with
    | bare h =>
      have hread := readDigits?_eq_some_iff.mpr h
      obtain ⟨c, rest, d, ds, rfl, hd, -⟩ := h
      have hminus : c ≠ '-' := by
        rintro rfl
        exact absurd hd (by simp [digitValue?_mark])
      have hplus : c ≠ '+' := by
        rintro rfl
        exact absurd hd (by simp [digitValue?_mark])
      rw [readSigned?.eq_3 _ (by simp [hminus]) (by simp [hplus]), hread]
      rfl
    | plus h =>
      rw [readSigned?, readDigits?_eq_some_iff.mpr h]
      rfl
    | minus h =>
      rw [readSigned?, readDigits?_eq_some_iff.mpr h]
      rfl

/-- **Reading gives a number just for the texts that write one.** -/
theorem read?_eq_some_iff {cs : List Char} {n : Int} : read? cs = some n ↔ Writes cs n := by
  constructor
  · intro h
    obtain ⟨after, hafter, hpadded⟩ :=
      Text.exists_eq_dropTrailing_append isPadding (cs.dropWhile isPadding)
    refine ⟨cs.takeWhile isPadding, _, after, ?_, fun c hc => List.mem_takeWhile_imp hc, hpadded,
      readSigned?_eq_some_iff.mp h⟩
    rw [List.append_assoc, ← hafter, List.takeWhile_append_dropWhile]
  · rintro ⟨before, body, after, rfl, hbefore, hafter, hbody⟩
    have hinside : ∀ c ∈ body, isPadding c = false :=
      hbody.forall_mem not_isPadding_of_digit (by decide)
    have hfront : (before ++ body ++ after).dropWhile isPadding = body ++ after := by
      rw [List.append_assoc, List.dropWhile_append_of_pos hbefore]
      cases body with
      | nil => exact absurd rfl hbody.ne_nil
      | cons c rest => simp [hinside c List.mem_cons_self]
    have hback : Text.dropTrailing isPadding (body ++ after) = body := by
      rw [Text.dropTrailing_append hafter]
      exact Text.dropTrailing_eq_self fun c hc => hinside c (List.mem_of_mem_getLast? hc)
    rw [read?, hfront, hback]
    exact readSigned?_eq_some_iff.mpr hbody

/-- The delete character has no place in a numeral, nor beside one. -/
theorem Writes.ne_delete {cs : List Char} {n : Int} (h : Writes cs n) :
    ∀ c ∈ cs, c.toNat ≠ 0x7F := by
  obtain ⟨before, body, after, rfl, hbefore, hafter, hbody⟩ := h
  have hpadding : ∀ c, isPadding c = true → c.toNat ≠ 0x7F := by
    intro c hc hdelete
    simp [isPadding, Text.isBlank, hdelete] at hc
  intro c hc
  simp only [List.mem_append] at hc
  rcases hc with (hc | hc) | hc
  · exact hpadding c (hbefore c hc)
  · exact hbody.forall_mem digit_ne_delete (by decide) c hc
  · exact hpadding c (hafter c hc)

/-- A string of bytes is a text if it is in ASCII. -/
theorem readBytes?_eq_some_iff {bytes : List UInt8} {n : Int} :
    readBytes? bytes = some n ↔
      (∀ b ∈ bytes, b < 0x80) ∧ Writes (bytes.map fun b => Char.ofNat b.toNat) n := by
  unfold readBytes?
  split
  · next hascii =>
    rw [read?_eq_some_iff]
    have hbelow : ∀ b ∈ bytes, b < 0x80 := by
      intro b hb
      have hlow : b < 0x7F := of_decide_eq_true (List.all_eq_true.mp hascii b hb)
      exact UInt8.lt_trans hlow (by decide)
    exact ⟨fun h => ⟨hbelow, h⟩, And.right⟩
  · next hascii =>
    -- among ASCII only the last character is too much, and no numeral has it
    constructor
    · rintro ⟨⟩
    · rintro ⟨hbelow, hwrites⟩
      refine absurd (List.all_eq_true.mpr fun b hb => decide_eq_true ?_) hascii
      have hne : (Char.ofNat b.toNat).toNat ≠ 0x7F := hwrites.ne_delete _ (List.mem_map_of_mem hb)
      have hsmall : b.toNat < 0x80 := UInt8.lt_iff_toNat_lt.mp (hbelow b hb)
      rw [Char.ofNat, dif_pos (Or.inl (by omega))] at hne
      replace hne : b.toNat ≠ 0x7F := hne
      apply UInt8.lt_iff_toNat_lt.mpr
      show b.toNat < 0x7F
      omega

end Numeral
end SqlTemplate
