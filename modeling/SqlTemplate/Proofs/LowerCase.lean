import Mathlib
import SqlTemplate.Text.Lowercase

/-!
# Lower case is final

A name is kept under its lower-case form, and is found again by the form of whatever is asked for.
So whoever asks for a key itself is answered only if **the form of a form is that form**. This is a
fact about the table of capitals and not about its use: no stretch of capitals leads into another
one, nor into `İ`. Where two stretches overlap, as they do where capitals and small letters take
turns, the members of the one are even and those of the other odd; so the ends and the parities of
the stretches are enough to see that they are apart, and no letter has to be looked at.
-/

set_option autoImplicit false

namespace SqlTemplate
namespace Text

namespace CaseRun

/-- The stretch of the lower-case forms of a stretch. -/
def image (r : CaseRun) : CaseRun :=
  ⟨(r.first + r.shift).toNat, (r.last + r.shift).toNat, r.step, 0⟩

/-- Whether the members are all even or all odd, as they are in steps of two, or when there is only
one. -/
def hasParity (r : CaseRun) : Bool := r.step == 2 || r.first == r.last

/-- Whether the ends of two stretches, or their parities, show that they have no member in
common. -/
def apart (r s : CaseRun) : Bool :=
  r.last.blt s.first || s.last.blt r.first ||
    (r.hasParity && s.hasParity && r.first % 2 != s.first % 2)

theorem contains_iff {r : CaseRun} {n : Nat} :
    r.contains n = true ↔ r.first ≤ n ∧ n ≤ r.last ∧ (n - r.first) % r.step = 0 := by
  simp [contains, and_assoc]

theorem contains_image {r : CaseRun} {n : Nat} (hpos : 0 < r.first + r.shift)
    (h : r.contains n = true) : r.image.contains (n + r.shift).toNat = true := by
  obtain ⟨hfirst, hlast, hstep⟩ := contains_iff.1 h
  have hdist : (n + r.shift).toNat - (r.first + r.shift).toNat = n - r.first := by omega
  refine contains_iff.2 ⟨?_, ?_, ?_⟩
  · simp only [image]; omega
  · simp only [image]; omega
  · simpa only [image, hdist] using hstep

theorem mod_two_of_hasParity {r : CaseRun} {n : Nat} (hr : r.hasParity = true)
    (h : r.contains n = true) : n % 2 = r.first % 2 := by
  obtain ⟨hfirst, hlast, hstep⟩ := contains_iff.1 h
  simp only [hasParity, Bool.or_eq_true, beq_iff_eq] at hr
  rcases hr with hr | hr
  · rw [hr] at hstep; omega
  · omega

theorem not_contains_of_apart {r s : CaseRun} {n : Nat} (hrs : r.apart s = true)
    (h : r.contains n = true) : s.contains n = false := by
  rw [Bool.eq_false_iff]
  intro hs
  obtain ⟨hfirst, hlast, -⟩ := contains_iff.1 h
  obtain ⟨hfirst', hlast', -⟩ := contains_iff.1 hs
  simp only [apart, Bool.or_eq_true, Bool.and_eq_true, Nat.blt_eq, bne_iff_ne] at hrs
  rcases hrs with (hends | hends) | ⟨⟨hr, hs'⟩, hparity⟩
  · omega
  · omega
  · exact hparity ((mod_two_of_hasParity hr h).symm.trans (mod_two_of_hasParity hs' hs))

end CaseRun

/-- All stretches of capitals, the `İ` included. -/
def capitalRuns : List CaseRun := ⟨0x130, 0x130, 1, 0⟩ :: caseRuns

/-- Whether a code point has a lower-case form other than itself. -/
def isCapital (n : Nat) : Bool := capitalRuns.any (·.contains n)

theorem caseRuns_apart :
    ((caseRuns.map CaseRun.image).all fun r => capitalRuns.all (r.apart ·)) = true := by
  decide +kernel

theorem caseRuns_positive : (caseRuns.all fun r => 0 < r.first + r.shift) = true := by
  decide +kernel

/-- No stretch of capitals leads into a stretch of capitals. -/
theorem isCapital_image {r : CaseRun} (hr : r ∈ caseRuns) {n : Nat} (h : r.contains n = true) :
    isCapital (n + r.shift).toNat = false := by
  have hpos : 0 < r.first + r.shift := by
    simpa using List.all_eq_true.1 caseRuns_positive r hr
  have himage := CaseRun.contains_image hpos h
  rw [isCapital, List.any_eq_false]
  intro s hs
  have hapart := List.all_eq_true.1 caseRuns_apart r.image (List.mem_map_of_mem hr)
  rw [CaseRun.not_contains_of_apart (List.all_eq_true.1 hapart s hs) himage]
  simp

theorem lowerChar_eq_self {c : Char} (h : isCapital c.toNat = false) : lowerChar c = [c] := by
  rw [isCapital, List.any_eq_false] at h
  have hdotted : c ≠ 'İ' := by
    rintro rfl
    exact h _ List.mem_cons_self (by decide)
  have hfind : caseRuns.find? (·.contains c.toNat) = none :=
    List.find?_eq_none.2 fun r hr => h r (List.mem_cons_of_mem _ hr)
  simp [lowerChar, hdotted, hfind]

theorem isCapital_of_mem_lowerChar {c d : Char} (h : d ∈ lowerChar c) :
    isCapital d.toNat = false := by
  rw [lowerChar] at h
  split at h
  · rcases List.mem_cons.1 h with rfl | h
    · decide +kernel
    · rw [List.mem_singleton.1 h]; decide +kernel
  · next hdotted =>
    split at h
    · next run hrun =>
      have hc : run.contains c.toNat = true := by simpa using List.find?_some hrun
      rw [List.mem_singleton.1 h, Char.toNat_ofNat]
      split
      · exact isCapital_image (List.mem_of_find?_eq_some hrun) hc
      · -- a code point that is no character is read as the null character
        decide +kernel
    · next hnone =>
      rw [List.mem_singleton.1 h, isCapital, List.any_eq_false]
      intro r hr
      rcases List.mem_cons.1 hr with rfl | hr
      · have : c.toNat ≠ 0x130 := fun e => hdotted (Char.toNat_inj.1 e)
        rw [CaseRun.contains_iff]
        simp only
        omega
      · exact List.find?_eq_none.1 hnone r hr

theorem isCapital_of_mem_lowerAfter {passed cs : List Char} {d : Char}
    (h : d ∈ lowerAfter passed cs) : isCapital d.toNat = false := by
  induction cs generalizing passed with
  | nil => simp [lowerAfter] at h
  | cons c rest ih =>
    rw [lowerAfter, List.mem_append] at h
    rcases h with h | h
    · split at h
      · rw [List.mem_singleton.1 h]
        split <;> decide +kernel
      · exact isCapital_of_mem_lowerChar h
    · exact ih h

theorem lowerAfter_eq_self {cs : List Char} (passed : List Char)
    (h : ∀ c ∈ cs, isCapital c.toNat = false) : lowerAfter passed cs = cs := by
  induction cs generalizing passed with
  | nil => rfl
  | cons c rest ih =>
    have hc := h c List.mem_cons_self
    -- the capital sigma is a capital, so its place in the word is never asked for
    have hsigma : c ≠ 'Σ' := by
      rintro rfl
      exact absurd hc (by decide +kernel)
    simp [lowerAfter, hsigma, lowerChar_eq_self hc,
      ih (c :: passed) fun d hd => h d (List.mem_cons_of_mem _ hd)]

/-- **The lower-case form of a lower-case form is that form**, whatever stood around a sigma. -/
theorem lower_lower (cs : List Char) : lower (lower cs) = lower cs :=
  lowerAfter_eq_self [] fun _ => isCapital_of_mem_lowerAfter

theorem lowerString_lowerString (s : String) : lowerString (lowerString s) = lowerString s := by
  simp [lowerString, lower_lower]

example : lower ['Σ', 'A', 'Σ'] = ['σ', 'a', 'ς'] := by decide +kernel

end Text
end SqlTemplate
