import SqlTemplate.Template.Layout
import Mathlib.Data.List.TakeWhile

/-!
# Which block a line belongs to

A template can be looked at without reading it from top to bottom. A line belongs to **the nearest
block tag above it that is still open**, and a tag is open as long as every line after it is deeper
than it. That rule mentions no cursor and no recursion, only the positions of lines, and it is the
rule a person applies who looks at the indentation.

The reader of a template cuts the body of a tag out of the lines that follow it. What makes the two
views the same is proved here, for positions alone: below a tag, the lines of its body belong to it
or to one another as they would if the body stood by itself, and the lines after the body belong
to one another as if nothing stood above them.
-/

set_option autoImplicit false

namespace SqlTemplate

/-- Whether a line opens a block: it starts with the keyword of a block tag. -/
def Line.opensBlock (line : Line) : Bool := (BlockTag.ofStart? line.trimmed).isSome

namespace Outline

/-- Whether line `j` is a block tag and every line after it, up to line `i` and including it, is
deeper. -/
def encloses (lines : List Line) (j i : Nat) : Bool :=
  match lines[j]? with
  | some tagLine => tagLine.opensBlock && ((lines.take (i + 1)).drop (j + 1)).all tagLine.deeper
  | none => false

/-- The block that line `i` belongs to: the latest earlier line that encloses it, and none at the
root. -/
def enclosing? (lines : List Line) (i : Nat) : Option Nat :=
  (List.range i).findRev? fun j => encloses lines j i

/-- The lines that belong to a block, or to the root, in their order. -/
def members (lines : List Line) (owner : Option Nat) : List Nat :=
  (List.range lines.length).filter fun i => enclosing? lines i == owner

/-! ## What a line in front changes -/

theorem encloses_cons_succ (line : Line) (rest : List Line) (j i : Nat) :
    encloses (line :: rest) (j + 1) (i + 1) = encloses rest j i := by
  simp [encloses]

theorem encloses_cons_zero (line : Line) (rest : List Line) (i : Nat) :
    encloses (line :: rest) 0 (i + 1) =
      (line.opensBlock && (rest.take (i + 1)).all line.deeper) := by
  simp [encloses]

@[simp] theorem enclosing?_zero (lines : List Line) : enclosing? lines 0 = none := rfl

/-- A line in front is the last to be asked: it owns what no line between them owns. -/
theorem enclosing?_cons_succ (line : Line) (rest : List Line) (i : Nat) :
    enclosing? (line :: rest) (i + 1) =
      ((enclosing? rest i).map (· + 1)).or
        (if line.opensBlock && (rest.take (i + 1)).all line.deeper then some 0 else none) := by
  rw [← encloses_cons_zero]
  unfold enclosing?
  rw [List.findRev?_eq_find?_reverse, List.findRev?_eq_find?_reverse, List.range_succ_eq_map,
    List.reverse_cons, ← List.map_reverse, List.find?_append, List.find?_map]
  have hcomp : ((fun j => encloses (line :: rest) j (i + 1)) ∘ Nat.succ) =
      fun j => encloses rest j i := funext fun j => encloses_cons_succ line rest j i
  rw [hcomp]
  cases h : encloses (line :: rest) 0 (i + 1) <;> simp [h]

theorem enclosing?_cons_of_not_opensBlock {line : Line} (h : line.opensBlock = false)
    (rest : List Line) (i : Nat) :
    enclosing? (line :: rest) (i + 1) = (enclosing? rest i).map (· + 1) := by
  rw [enclosing?_cons_succ, h]
  simp

theorem enclosing?_lt {lines : List Line} {i j : Nat} (h : enclosing? lines i = some j) :
    j < i := by
  rw [enclosing?, List.findRev?_eq_find?_reverse] at h
  simpa using List.mem_of_find?_eq_some h

/-! ## Where one list of lines ends and another begins -/

theorem enclosing?_append_left {xs : List Line} (ys : List Line) {i : Nat} (hi : i < xs.length) :
    enclosing? (xs ++ ys) i = enclosing? xs i := by
  induction xs generalizing i with
  | nil => simp at hi
  | cons x xs ih =>
    cases i with
    | zero => rfl
    | succ i =>
      have hi' : i < xs.length := by simpa using hi
      rw [List.cons_append, enclosing?_cons_succ, enclosing?_cons_succ, ih hi',
        List.take_append_of_le_length (by omega)]

/-- Lines none of which is open at `y` own nothing from `y` on. -/
theorem enclosing?_append_right {xs : List Line} {y : Line} (ys : List Line)
    (hclosed : ∀ x ∈ xs, x.deeper y = false) (k : Nat) :
    enclosing? (xs ++ y :: ys) (xs.length + k) =
      (enclosing? (y :: ys) k).map (· + xs.length) := by
  induction xs with
  | nil => simp
  | cons x xs ih =>
    have hx : x.deeper y = false := hclosed x List.mem_cons_self
    -- `y` is among the lines up to this one, so `x` is no longer open there
    have hmem : y ∈ (xs ++ y :: ys).take (xs.length + k + 1) := by
      rw [show xs.length + k + 1 = xs.length + (k + 1) by omega, List.take_length_add_append]
      simp
    have hopen : ((xs ++ y :: ys).take (xs.length + k + 1)).all x.deeper = false := by
      rw [List.all_eq_false]
      exact ⟨y, hmem, by simp [hx]⟩
    rw [List.cons_append, List.length_cons, show xs.length + 1 + k = xs.length + k + 1 by omega,
      enclosing?_cons_succ, hopen, ih fun z hz => hclosed z (List.mem_cons_of_mem _ hz)]
    simp [Option.map_map, Function.comp_def, Nat.add_assoc]

/-! ## The lines of a tag's body, and those after it -/

section Tag

variable {line : Line} {rest : List Line}

theorem mem_rest_iff (x : Line) :
    x ∈ rest ↔ x ∈ line.body rest ∨ x ∈ line.afterBody rest := by
  rw [← List.mem_append, line.body_append_afterBody]

theorem deeper_of_mem_body {x : Line} (hx : x ∈ line.body rest) : line.deeper x = true :=
  List.mem_takeWhile_imp hx

theorem not_deeper_of_afterBody {y : Line} {ys : List Line} (hy : line.afterBody rest = y :: ys) :
    line.deeper y = false := by
  have hhead := List.head?_dropWhile_not line.deeper rest
  rw [show rest.dropWhile line.deeper = y :: ys from hy] at hhead
  simpa using hhead

theorem not_deeper_of_mem_body {x y : Line} {ys : List Line}
    (hy : line.afterBody rest = y :: ys) (hx : x ∈ line.body rest) : x.deeper y = false := by
  have h1 := deeper_of_mem_body hx
  have h2 := not_deeper_of_afterBody hy
  simp only [Line.deeper, decide_eq_true_eq, decide_eq_false_iff_not] at *
  omega

theorem getElem?_body {j : Nat} (hj : j < (line.body rest).length) :
    (line :: rest)[j + 1]? = (line.body rest)[j]? := by
  have happ : (line.body rest ++ line.afterBody rest)[j]? = (line.body rest)[j]? :=
    List.getElem?_append_left hj
  rw [List.getElem?_cons_succ, ← happ, line.body_append_afterBody]

theorem getElem?_afterBody (k : Nat) :
    (line :: rest)[k + ((line.body rest).length + 1)]? = (line.afterBody rest)[k]? := by
  have happ : (line.body rest ++ line.afterBody rest)[(line.body rest).length + k]? =
      (line.afterBody rest)[k]? := by
    rw [List.getElem?_append_right (by omega), Nat.add_sub_cancel_left]
  rw [← Nat.add_assoc, List.getElem?_cons_succ, Nat.add_comm k, ← happ,
    line.body_append_afterBody]

theorem position_cases (line : Line) (rest : List Line) (i : Nat) :
    i = 0 ∨ (∃ j < (line.body rest).length, i = j + 1) ∨
      ∃ k, i = k + ((line.body rest).length + 1) := by
  by_cases h : i < (line.body rest).length + 1
  · cases i with
    | zero => exact Or.inl rfl
    | succ j => exact Or.inr (Or.inl ⟨j, by omega, rfl⟩)
  · exact Or.inr (Or.inr ⟨i - ((line.body rest).length + 1), by omega⟩)

/-- In its body, a tag owns what no line of the body owns. -/
theorem enclosing?_body (h : line.opensBlock = true) {i : Nat}
    (hi : i < (line.body rest).length) :
    enclosing? (line :: rest) (i + 1) =
      ((enclosing? (line.body rest) i).map (· + 1)).or (some 0) := by
  have hopen : (rest.take (i + 1)).all line.deeper = true := by
    rw [← line.body_append_afterBody rest, List.take_append_of_le_length (by omega),
      List.all_eq_true]
    intro x hx
    exact deeper_of_mem_body (List.mem_of_mem_take hx)
  have hrest : enclosing? rest i = enclosing? (line.body rest) i := by
    have happ := enclosing?_append_left (line.afterBody rest) hi
    rwa [line.body_append_afterBody] at happ
  rw [enclosing?_cons_succ, h, hopen, hrest]
  rfl

/-- After the body of a tag, neither the tag nor its body owns anything. -/
theorem enclosing?_afterBody {k : Nat} (hk : k < (line.afterBody rest).length) :
    enclosing? (line :: rest) (k + ((line.body rest).length + 1)) =
      (enclosing? (line.afterBody rest) k).map (· + ((line.body rest).length + 1)) := by
  cases hy : line.afterBody rest with
  | nil => simp [hy] at hk
  | cons y ys =>
    have hsplit : line :: rest = (line :: line.body rest) ++ y :: ys := by
      rw [List.cons_append, ← hy, line.body_append_afterBody]
    -- the line that ends the body closes the tag, and what is deeper than the tag too
    have hclosed : ∀ x ∈ line :: line.body rest, x.deeper y = false := by
      intro x hx
      rcases List.mem_cons.mp hx with rfl | hx
      · exact not_deeper_of_afterBody hy
      · exact not_deeper_of_mem_body hy hx
    have happ := enclosing?_append_right ys hclosed k
    rw [← hsplit, List.length_cons] at happ
    rw [Nat.add_comm, happ]

/-! ## Who owns which lines -/

theorem range_cons_eq :
    List.range (line :: rest).length =
      0 :: ((List.range (line.body rest).length).map (· + 1) ++
        (List.range (line.afterBody rest).length).map (· + ((line.body rest).length + 1))) := by
  have hlen : rest.length = (line.body rest).length + (line.afterBody rest).length := by
    rw [← List.length_append, line.body_append_afterBody]
  rw [List.length_cons, List.range_succ_eq_map, hlen, List.range_add, List.map_append,
    List.map_map]
  congr 2
  refine List.map_congr_left fun k _ => ?_
  show (line.body rest).length + k + 1 = k + ((line.body rest).length + 1)
  omega

/-- The members of an owner, sought in the body of the first tag and after it. -/
theorem members_tag (h : line.opensBlock = true) (owner : Option Nat) :
    members (line :: rest) owner =
      (if none == owner then [0] else []) ++
        (((List.range (line.body rest).length).filter fun i =>
          ((enclosing? (line.body rest) i).map (· + 1)).or (some 0) == owner).map (· + 1) ++
        ((List.range (line.afterBody rest).length).filter fun k =>
          (enclosing? (line.afterBody rest) k).map (· + ((line.body rest).length + 1)) ==
            owner).map (· + ((line.body rest).length + 1))) := by
  have hbody : ∀ i ∈ List.range (line.body rest).length,
      ((fun i => enclosing? (line :: rest) i == owner) ∘ (· + 1)) i =
        (((enclosing? (line.body rest) i).map (· + 1)).or (some 0) == owner) := by
    intro i hi
    rw [← enclosing?_body h (List.mem_range.mp hi)]
    rfl
  have hafter : ∀ k ∈ List.range (line.afterBody rest).length,
      ((fun i => enclosing? (line :: rest) i == owner) ∘
          (· + ((line.body rest).length + 1))) k =
        ((enclosing? (line.afterBody rest) k).map (· + ((line.body rest).length + 1)) ==
          owner) := by
    intro k hk
    rw [← enclosing?_afterBody (List.mem_range.mp hk)]
    rfl
  -- the tag's own position is at the root, the others are sought in the two parts
  rw [members, range_cons_eq, List.filter_cons, List.filter_append, List.filter_map,
    List.filter_map, List.filter_congr hbody, List.filter_congr hafter, enclosing?_zero]
  split <;> rfl

theorem members_tag_root (h : line.opensBlock = true) :
    members (line :: rest) none =
      0 :: (members (line.afterBody rest) none).map (· + ((line.body rest).length + 1)) := by
  have hbody : ∀ i, (((enclosing? (line.body rest) i).map (· + 1)).or (some 0) == none) = false := by
    intro i
    cases enclosing? (line.body rest) i <;> rfl
  have hafter : ∀ k, ((enclosing? (line.afterBody rest) k).map (· + ((line.body rest).length + 1)) ==
      none) = (enclosing? (line.afterBody rest) k == none) := by
    intro k
    cases enclosing? (line.afterBody rest) k <;> rfl
  rw [members_tag h]
  simp only [hbody, hafter]
  simp [members]

/-- A tag owns what its body leaves to the root. -/
theorem members_tag_self (h : line.opensBlock = true) :
    members (line :: rest) (some 0) = (members (line.body rest) none).map (· + 1) := by
  have hbody : ∀ i, (((enclosing? (line.body rest) i).map (· + 1)).or (some 0) == some 0) =
      (enclosing? (line.body rest) i == none) := by
    intro i
    cases enclosing? (line.body rest) i <;> simp
  have hafter : ∀ k, ((enclosing? (line.afterBody rest) k).map (· + ((line.body rest).length + 1)) ==
      some 0) = false := by
    intro k
    cases enclosing? (line.afterBody rest) k <;> simp
  rw [members_tag h]
  simp only [hbody, hafter]
  simp [members]

theorem members_tag_body (h : line.opensBlock = true) {j : Nat} (hj : j < (line.body rest).length) :
    members (line :: rest) (some (j + 1)) =
      (members (line.body rest) (some j)).map (· + 1) := by
  have hbody : ∀ i, (((enclosing? (line.body rest) i).map (· + 1)).or (some 0) == some (j + 1)) =
      (enclosing? (line.body rest) i == some j) := by
    intro i
    cases enclosing? (line.body rest) i <;> simp
  have hafter : ∀ k, ((enclosing? (line.afterBody rest) k).map (· + ((line.body rest).length + 1)) ==
      some (j + 1)) = false := by
    intro k
    cases enclosing? (line.afterBody rest) k with
    | none => rfl
    | some i =>
      simp only [Option.map_some, beq_eq_false_iff_ne, ne_eq, Option.some.injEq]
      omega
  rw [members_tag h]
  simp only [hbody, hafter]
  simp [members]

theorem members_tag_afterBody (h : line.opensBlock = true) (j : Nat) :
    members (line :: rest) (some (j + ((line.body rest).length + 1))) =
      (members (line.afterBody rest) (some j)).map (· + ((line.body rest).length + 1)) := by
  have hbody : ∀ i ∈ List.range (line.body rest).length,
      (((enclosing? (line.body rest) i).map (· + 1)).or (some 0) ==
        some (j + ((line.body rest).length + 1))) = false := by
    intro i hi
    cases ho : enclosing? (line.body rest) i with
    | none => simp
    | some o =>
      have hlt := enclosing?_lt ho
      have hi := List.mem_range.mp hi
      simp only [Option.map_some, Option.some_or, beq_eq_false_iff_ne, ne_eq, Option.some.injEq]
      omega
  have hafter : ∀ k, ((enclosing? (line.afterBody rest) k).map (· + ((line.body rest).length + 1)) ==
      some (j + ((line.body rest).length + 1))) = (enclosing? (line.afterBody rest) k == some j) := by
    intro k
    cases enclosing? (line.afterBody rest) k <;> simp
  rw [members_tag h, List.filter_congr hbody]
  simp only [hafter]
  simp [members]

end Tag

/-! ## A line that opens no block -/

theorem members_content_root {line : Line} (h : line.opensBlock = false) (rest : List Line) :
    members (line :: rest) none = 0 :: (members rest none).map (· + 1) := by
  unfold members
  rw [List.length_cons, List.range_succ_eq_map, List.filter_cons, List.filter_map]
  simp [enclosing?_cons_of_not_opensBlock h, Function.comp_def]

theorem members_content_some {line : Line} (h : line.opensBlock = false) (rest : List Line)
    (j : Nat) : members (line :: rest) (some (j + 1)) = (members rest (some j)).map (· + 1) := by
  have hrest : ∀ i, ((enclosing? rest i).map (· + 1) == some (j + 1)) =
      (enclosing? rest i == some j) := by
    intro i
    cases enclosing? rest i <;> simp
  unfold members
  rw [List.length_cons, List.range_succ_eq_map, List.filter_cons, List.filter_map]
  simp only [Function.comp_def, Nat.succ_eq_add_one, enclosing?_cons_of_not_opensBlock h, hrest]
  simp

end Outline
end SqlTemplate
