import SqlTemplate.Text.Blank
import Mathlib.Data.List.Basic
import Mathlib.Data.List.TakeWhile

/-!
# What trimming leaves

A text is what trimming leaves of it with a gap on either side, and **the gaps decide nothing**: any
others in their place leave the same. So the same is left whether the break at the end of a line is
taken off first or not, and a text with no blank at an end stays as it is there.
-/

set_option autoImplicit false

namespace SqlTemplate
namespace Text

variable {p : Char → Bool} {cs gap : List Char}

theorem exists_eq_dropTrailing_append (p : Char → Bool) (cs : List Char) :
    ∃ gap, cs = dropTrailing p cs ++ gap ∧ ∀ c ∈ gap, p c = true := by
  refine ⟨(cs.reverse.takeWhile p).reverse, ?_, ?_⟩
  · rw [dropTrailing, ← List.reverse_append, List.takeWhile_append_dropWhile, List.reverse_reverse]
  · intro c hc
    rw [List.mem_reverse] at hc
    exact List.mem_takeWhile_imp hc

theorem dropTrailing_append (hgap : ∀ c ∈ gap, p c = true) :
    dropTrailing p (cs ++ gap) = dropTrailing p cs := by
  have hreverse : ∀ c ∈ gap.reverse, p c = true := by simpa using hgap
  rw [dropTrailing, List.reverse_append, List.dropWhile_append_of_pos hreverse, dropTrailing]

theorem dropTrailing_eq_self (h : ∀ c ∈ cs.getLast?, p c = false) : dropTrailing p cs = cs := by
  unfold dropTrailing
  cases hrev : cs.reverse with
  | nil => exact (List.reverse_eq_nil_iff.mp hrev).symm
  | cons c before =>
    have hlast : c ∈ cs.getLast? := by
      rw [← List.head?_reverse, hrev]
      rfl
    rw [List.dropWhile_cons, h c hlast, ← hrev]
    exact List.reverse_reverse cs

/-- A run at the start is not shortened by what is taken off the end. -/
theorem takeWhile_dropTrailing {q : Char → Bool} (hpq : ∀ c, p c = true → q c = false)
    (cs : List Char) : (dropTrailing p cs).takeWhile q = cs.takeWhile q := by
  obtain ⟨gap, hcs, hgap⟩ := exists_eq_dropTrailing_append p cs
  have hnone : gap.takeWhile q = [] := by
    cases gap with
    | nil => rfl
    | cons c gap => simp [hpq c (hgap c List.mem_cons_self)]
  have hwhole : (dropTrailing p cs ++ gap).takeWhile q = (dropTrailing p cs).takeWhile q := by
    rw [List.takeWhile_append, hnone]
    split
    · next hlen =>
      have hall := List.IsPrefix.eq_of_length (List.takeWhile_prefix q) hlen
      rw [hall, List.append_nil]
    · rfl
  rw [← hwhole, ← hcs]

/-! ## Blanks on either side -/

theorem trimLeft_append {rest : List Char} (hgap : ∀ c ∈ gap, isBlank c = true)
    (hrest : ∀ c ∈ rest.head?, isBlank c = false) : trimLeft (gap ++ rest) = rest := by
  rw [trimLeft, List.dropWhile_append_of_pos hgap]
  cases rest with
  | nil => rfl
  | cons c rest => rw [List.dropWhile_cons, hrest c rfl]; rfl

theorem trim_blank_append (hgap : ∀ c ∈ gap, isBlank c = true) (cs : List Char) :
    trim (gap ++ cs) = trim cs := by
  rw [trim, trimLeft, List.dropWhile_append_of_pos hgap, trim, trimLeft]

theorem trim_append_blank (hgap : ∀ c ∈ gap, isBlank c = true) (cs : List Char) :
    trim (cs ++ gap) = trim cs := by
  unfold trim trimLeft trimRight
  rw [List.dropWhile_append]
  split
  · next hempty =>
    -- the text was blank, and the gap is taken off from the front
    have hgone : gap.dropWhile isBlank = [] := List.dropWhile_eq_nil_iff.mpr hgap
    rw [List.isEmpty_iff.mp hempty, hgone]
  · exact dropTrailing_append hgap

theorem trim_dropTrailing (hp : ∀ c, p c = true → isBlank c = true) (cs : List Char) :
    trim (dropTrailing p cs) = trim cs := by
  obtain ⟨gap, hcs, hgap⟩ := exists_eq_dropTrailing_append p cs
  have hwhole := trim_append_blank (fun c hc => hp c (hgap c hc)) (dropTrailing p cs)
  rw [← hwhole, ← hcs]

theorem exists_eq_append_trim_append (cs : List Char) :
    ∃ before after, cs = before ++ trim cs ++ after ∧ (∀ c ∈ before, isBlank c = true) ∧
      ∀ c ∈ after, isBlank c = true := by
  obtain ⟨after, hafter, hblank⟩ := exists_eq_dropTrailing_append isBlank (trimLeft cs)
  refine ⟨cs.takeWhile isBlank, after, ?_, fun c hc => List.mem_takeWhile_imp hc, hblank⟩
  calc cs = cs.takeWhile isBlank ++ trimLeft cs := List.takeWhile_append_dropWhile.symm
    _ = cs.takeWhile isBlank ++ (trim cs ++ after) := congrArg _ hafter
    _ = cs.takeWhile isBlank ++ trim cs ++ after := (List.append_assoc ..).symm

/-! ## The ends of a trimmed text -/

theorem head?_trim_not (cs : List Char) : ∀ c ∈ (trim cs).head?, isBlank c = false := by
  intro c hc
  obtain ⟨gap, hgap, -⟩ := exists_eq_dropTrailing_append isBlank (trimLeft cs)
  refine head?_dropWhile_not isBlank cs c ?_
  rw [show cs.dropWhile isBlank = trim cs ++ gap from hgap, List.head?_append, Option.mem_def.mp hc]
  rfl

theorem trim_eq_self (hfirst : ∀ c ∈ cs.head?, isBlank c = false)
    (hlast : ∀ c ∈ cs.getLast?, isBlank c = false) : trim cs = cs := by
  have hleft : trimLeft cs = cs := by
    cases cs with
    | nil => rfl
    | cons c cs => simp [trimLeft, hfirst c rfl]
  rw [trim, hleft]
  exact dropTrailing_eq_self hlast

theorem getLast?_of_suffix {rest : List Char} (h : rest <:+ cs) :
    ∀ c ∈ rest.getLast?, c ∈ cs.getLast? := by
  intro c hc
  obtain ⟨before, rfl⟩ := h
  rw [List.getLast?_append, Option.mem_def.mp hc]
  rfl

/-- Trimming a text without blanks at its end leaves an end of it. -/
theorem trim_suffix (h : ∀ c ∈ cs.getLast?, isBlank c = false) : trim cs <:+ cs := by
  have hleft : trimLeft cs <:+ cs := List.dropWhile_suffix _
  have htrim : trim cs = trimLeft cs :=
    dropTrailing_eq_self fun c hc => h c (getLast?_of_suffix hleft c hc)
  rw [htrim]
  exact hleft

end Text
end SqlTemplate
