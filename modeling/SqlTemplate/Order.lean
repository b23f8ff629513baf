/-!
# Sorting

What has no order of its own is listed in the order of its text, and text is ordered by code point.
Insertion is enough for lists of names: it is structural, it keeps equal members in their order,
and the two facts that are wanted, nothing lost and everything in order, are short inductions.
-/

set_option autoImplicit false

namespace SqlTemplate
namespace Order

variable {α : Type}

/-- Puts an element before the first one that does not come before it. -/
def insertBy (le : α → α → Bool) (x : α) : List α → List α
  | [] => [x]
  | y :: rest => if le x y then x :: y :: rest else y :: insertBy le x rest

/-- Sorts a list; equal elements stay in their order. -/
def sortBy (le : α → α → Bool) (xs : List α) : List α := xs.foldr (insertBy le) []

theorem insertBy_perm (le : α → α → Bool) (x : α) (xs : List α) :
    (insertBy le x xs).Perm (x :: xs) := by
  induction xs with
  | nil => exact .refl _
  | cons y rest ih =>
    simp only [insertBy]
    split
    · exact .refl _
    · exact (ih.cons y).trans (.swap x y rest)

/-- Sorting loses nothing and adds nothing. -/
theorem sortBy_perm (le : α → α → Bool) (xs : List α) : (sortBy le xs).Perm xs := by
  induction xs with
  | nil => exact .refl _
  | cons x rest ih => exact (insertBy_perm le x _).trans (ih.cons x)

theorem pairwise_insertBy {le : α → α → Bool} (total : ∀ a b, le a b = true ∨ le b a = true)
    (trans : ∀ a b c, le a b = true → le b c = true → le a c = true) (x : α) {xs : List α}
    (h : xs.Pairwise fun a b => le a b = true) :
    (insertBy le x xs).Pairwise fun a b => le a b = true := by
  induction xs with
  | nil => simp [insertBy]
  | cons y rest ih =>
    obtain ⟨hy, hrest⟩ := List.pairwise_cons.1 h
    simp only [insertBy]
    split
    · next hxy =>
      refine List.pairwise_cons.2 ⟨fun z hz => ?_, h⟩
      rcases List.mem_cons.1 hz with rfl | hz
      · exact hxy
      · exact trans x y z hxy (hy z hz)
    · next hxy =>
      refine List.pairwise_cons.2 ⟨fun z hz => ?_, ih hrest⟩
      rcases List.mem_cons.1 ((insertBy_perm le x rest).mem_iff.1 hz) with rfl | hz
      · exact (total z y).resolve_left hxy
      · exact hy z hz

/-- What is sorted is in order. -/
theorem pairwise_sortBy {le : α → α → Bool} (total : ∀ a b, le a b = true ∨ le b a = true)
    (trans : ∀ a b c, le a b = true → le b c = true → le a c = true) (xs : List α) :
    (sortBy le xs).Pairwise fun a b => le a b = true := by
  induction xs with
  | nil => exact .nil
  | cons x rest ih => exact pairwise_insertBy total trans x ih

/-- The order of texts: by code point, from the first on. -/
def textLe (a b : String) : Bool := decide (a ≤ b)

/-- What is sorted by texts, all of them different, is in the strict order of these. -/
theorem pairwise_lt_sortBy {text : α → String} {xs : List α} (h : (xs.map text).Nodup) :
    (sortBy (fun a b => textLe (text a) (text b)) xs).Pairwise fun a b => text a < text b := by
  have hsorted : (sortBy (fun a b => textLe (text a) (text b)) xs).Pairwise
      fun a b => textLe (text a) (text b) = true := by
    refine pairwise_sortBy (fun a b => ?_) (fun a b c hab hbc => ?_) xs
    · simpa only [textLe, decide_eq_true_eq] using String.le_total (text a) (text b)
    · simp only [textLe, decide_eq_true_eq] at hab hbc ⊢
      exact String.le_trans hab hbc
  have hdistinct : (sortBy (fun a b => textLe (text a) (text b)) xs).Pairwise
      fun a b => text a ≠ text b :=
    List.pairwise_map.mp (((sortBy_perm _ xs).map text).nodup_iff.mpr h)
  refine (hsorted.and hdistinct).imp fun {a b} hab => ?_
  exact String.not_le.mp fun hba => hab.2 (String.le_antisymm (of_decide_eq_true hab.1) hba)

def sortTexts (xs : List String) : List String := sortBy textLe xs

end Order
end SqlTemplate
