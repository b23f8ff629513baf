import SqlTemplate.Proofs.Numbering

/-!
# Templates put together

A line that is not indented is deeper than nothing, so it closes whatever blocks are open above it,
**just as the end of a file closes them**. A template that begins with such a line can therefore be
put below any other one, and the two are read as they are read apart: a fault in either is a fault
of the whole, a tag without a body included, and the named trees of the whole are those of the one
and then those of the other.

For the tables this makes the later template win. Its names keep its order and stand last; the
earlier names that it does not define keep theirs.
-/

set_option autoImplicit false

namespace SqlTemplate

/-- The template says nothing, or its first line that does is not indented. -/
def StartsAtRoot (raw : List String) : Prop :=
  ∀ line ∈ (significantLines raw).head?, line.indent = 0

theorem StartsAtRoot.append {xs ys : List String} (hx : StartsAtRoot xs) (hy : StartsAtRoot ys) :
    StartsAtRoot (xs ++ ys) := by
  intro line hline
  rw [significantLines_append, List.head?_append] at hline
  cases hhead : (significantLines xs).head? with
  | some first =>
    rw [hhead, Option.some_or] at hline
    exact hx line (hhead ▸ hline)
  | none =>
    rw [hhead, Option.none_or, List.head?_map] at hline
    obtain ⟨first, hfirst, rfl⟩ := Option.map_eq_some_iff.mp hline
    exact hy first hfirst

/-! ## Reading the two parts -/

section Append

variable {ys : List Line} (hclosing : ∀ y ∈ ys.head?, y.indent = 0)
include hclosing

theorem body_append_of_closing (line : Line) (rest : List Line) :
    line.body (rest ++ ys) = line.body rest := by
  unfold Line.body
  induction rest with
  | nil =>
    cases ys with
    | nil => rfl
    | cons y ys => simp [Line.deeper, hclosing y rfl]
  | cons x rest ih =>
    rw [List.cons_append, List.takeWhile_cons, List.takeWhile_cons, ih]

theorem afterBody_append_of_closing (line : Line) (rest : List Line) :
    line.afterBody (rest ++ ys) = line.afterBody rest ++ ys := by
  have h : line.body rest ++ line.afterBody (rest ++ ys) =
      line.body rest ++ (line.afterBody rest ++ ys) := by
    rw [← body_append_of_closing hclosing, Line.body_append_afterBody, ← List.append_assoc,
      body_append_of_closing hclosing, Line.body_append_afterBody]
  exact List.append_cancel_left h

/-- Below other lines, lines that begin at the root are read as if nothing stood above them. -/
theorem readsAs_append_iff {xs : List Line} {entries : Table} :
    ReadsAs (xs ++ ys) entries ↔
      ∃ earlier later, ReadsAs xs earlier ∧ ReadsAs ys later ∧ entries = earlier ++ later := by
  induction xs using readDefinitions.induct generalizing entries with
  | case1 => simp [readsAs_nil_iff]
  | case2 line rest e he =>
    simp only [List.cons_append, readsAs_cons_iff, body_append_of_closing hclosing, he]
    simp
  | case3 line rest d hd ih =>
    rw [List.cons_append, readsAs_cons_iff, body_append_of_closing hclosing,
      afterBody_append_of_closing hclosing]
    constructor
    · intro h
      obtain ⟨d', others, hd', hothers, rfl⟩ := h
      obtain ⟨earlier, later, hearlier, hlater, rfl⟩ := ih.mp hothers
      exact ⟨_, later, readsAs_cons_iff.mpr ⟨d', earlier, hd', hearlier, rfl⟩, hlater, rfl⟩
    · intro h
      obtain ⟨_, later, hxs, hlater, rfl⟩ := h
      obtain ⟨d', earlier, hd', hearlier, rfl⟩ := readsAs_cons_iff.mp hxs
      exact ⟨d', _, hd', ih.mpr ⟨earlier, later, hearlier, hlater, rfl⟩, rfl⟩

end Append

/-! ## The tables of the two parts -/

namespace Entries

variable {κ ν : Type} [BEq κ] [LawfulBEq κ]

theorem mem_keys_latest_iff {key : κ} {entries : List (κ × ν)} :
    key ∈ keys (latest entries) ↔ key ∈ keys entries := by
  induction entries with
  | nil => rfl
  | cons e rest ih =>
    unfold latest
    split
    · next hlater =>
      have hmem : e.1 ∈ keys rest := List.contains_iff_mem.mp hlater
      rw [ih]
      simp only [keys, List.map_cons, List.mem_cons] at hmem ⊢
      constructor
      · exact Or.inr
      · intro h
        rcases h with rfl | h
        · exact hmem
        · exact h
    · simp only [keys, List.map_cons, List.mem_cons] at ih ⊢
      rw [ih]

theorem nodup_keys_latest (entries : List (κ × ν)) : (keys (latest entries)).Nodup := by
  induction entries with
  | nil => exact List.nodup_nil
  | cons e rest ih =>
    unfold latest
    split
    · exact ih
    · next hlater =>
      refine List.nodup_cons.mpr ⟨fun hmem => hlater ?_, ih⟩
      exact List.contains_iff_mem.mpr (mem_keys_latest_iff.mp hmem)

/-- Of entries put together, the later ones win. -/
theorem latest_append (earlier later : List (κ × ν)) :
    latest (earlier ++ later) =
      ((latest earlier).filter fun e => !(keys (latest later)).contains e.1) ++ latest later := by
  have hkeys : ∀ key, (keys (latest later)).contains key = (keys later).contains key := by
    intro key
    rw [Bool.eq_iff_iff, List.contains_iff_mem, List.contains_iff_mem, mem_keys_latest_iff]
  simp only [hkeys]
  induction earlier with
  | nil => rfl
  | cons e rest ih =>
    have hmem : (keys (rest ++ later)).contains e.1 =
        ((keys rest).contains e.1 || (keys later).contains e.1) := by
      unfold keys
      rw [List.map_append, List.contains_append]
    rw [List.cons_append, latest, latest, hmem, ih]
    cases (keys rest).contains e.1 with
    | true => rfl
    | false =>
      -- the entry stays among the earlier ones unless the later ones have its key
      simp only [Bool.false_or, Bool.false_eq_true, if_false, List.filter_cons]
      cases (keys later).contains e.1 <;> rfl

end Entries

/-- The table of a template with another one below it: what the later one does not define, and
then what it defines. -/
def Table.followedBy (earlier later : Table) : Table :=
  (earlier.filter fun entry => !(Entries.keys later).contains entry.1) ++ later

/-- **Parsing distributes over putting templates together.** -/
theorem parseLines_append_eq_ok_iff {xs ys : List String} (hroot : StartsAtRoot ys)
    {table : Table} :
    parseLines (xs ++ ys) false = .ok table ↔
      ∃ earlier later, parseLines xs false = .ok earlier ∧ parseLines ys false = .ok later ∧
        table = earlier.followedBy later := by
  have hclosing : ∀ y ∈ ((significantLines ys).map (Line.movedDown xs.length)).head?,
      y.indent = 0 := by
    intro y hy
    rw [List.head?_map] at hy
    obtain ⟨first, hfirst, rfl⟩ := Option.map_eq_some_iff.mp hy
    exact hroot first hfirst
  simp only [parseLines_eq_ok_iff, significantLines_append, readsAs_append_iff hclosing,
    readsAs_map_movedDown_iff, List.forall_mem_append]
  constructor
  · intro h
    obtain ⟨⟨hx, hy⟩, _, ⟨earlier, later, hearlier, hlater, rfl⟩, rfl⟩ := h
    exact ⟨_, _, ⟨hx, earlier, hearlier, rfl⟩, ⟨hy, later, hlater, rfl⟩,
      Entries.latest_append earlier later⟩
  · intro h
    obtain ⟨_, _, ⟨hx, earlier, hearlier, rfl⟩, ⟨hy, later, hlater, rfl⟩, rfl⟩ := h
    exact ⟨⟨hx, hy⟩, _, ⟨earlier, later, hearlier, hlater, rfl⟩,
      (Entries.latest_append earlier later).symm⟩

end SqlTemplate
