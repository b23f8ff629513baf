import SqlTemplate.Proofs.Numbering
import SqlTemplate.Proofs.Trimming

/-!
# A template laid out anew

The layout of a template says which line belongs to which, and nothing else of it is looked at. A
template may be indented by other steps, as long as what was deeper stays deeper; lines that say
nothing may come and go, **however shallow they stand**, because they are gone before any depth is
compared; and the ends of lines may be blank or not. None of this changes the table.

What is indented is a run of spaces, and what is trimmed is white space of any kind. A line that
begins with another blank is therefore not indented, and keeps that blank as its first character
whatever is done to the spaces before it.
-/

set_option autoImplicit false

namespace SqlTemplate

/-- The raw line says nothing: it is blank, or its text begins with two dashes. -/
def SaysNothing (raw : String) : Prop :=
  Text.trim raw.toList = [] ∨ ['-', '-'] <+: Text.trim raw.toList

instance : DecidablePred SaysNothing := fun _ => inferInstanceAs (Decidable (_ ∨ _))

/-- White space at the end of a line, without a tab. -/
def IsGap (gap : List Char) : Prop := ∀ c ∈ gap, Text.isBlank c = true ∧ c ≠ '\t'

instance : DecidablePred IsGap := fun gap =>
  decidable_of_iff (gap.all (fun c => Text.isBlank c && c != '\t') = true) (by simp [IsGap])

/-- The raw line with its leading spaces counted anew by `f`, and with another gap at its end. -/
def Reindented (f : Nat → Nat) (old new : String) : Prop :=
  ∃ depth first more oldGap newGap, first ≠ ' ' ∧ IsGap oldGap ∧ IsGap newGap ∧
    old.toList = List.replicate depth ' ' ++ (first :: more) ++ oldGap ∧
    new.toList = List.replicate (f depth) ' ' ++ (first :: more) ++ newGap

/-- A template laid out anew. Lines that say nothing come and go unless they hold a tab. The others
stay in their order, with their depths counted anew. -/
inductive Relaid (f : Nat → Nat) : List String → List String → Prop where
  | nil : Relaid f [] []
  | line {x y : String} {old new : List String} (hx : ¬ SaysNothing x) (hxy : Reindented f x y)
      (h : Relaid f old new) : Relaid f (x :: old) (y :: new)
  | kept {x : String} {old new : List String} (hx : SaysNothing x) (h : Relaid f old new) :
      Relaid f (x :: old) (x :: new)
  | inserted {x : String} {old new : List String} (hx : SaysNothing x) (htab : '\t' ∉ x.toList)
      (h : Relaid f old new) : Relaid f old (x :: new)
  | deleted {x : String} {old new : List String} (hx : SaysNothing x) (htab : '\t' ∉ x.toList)
      (h : Relaid f old new) : Relaid f (x :: old) new

/-! ## A raw line, and the line read from it -/

namespace Line

theorem isComment_iff {line : Line} :
    line.isComment = true ↔ line.trimmed = [] ∨ ['-', '-'] <+: line.trimmed := by
  unfold isComment
  split
  · next h => simp [h]
  · next h => simp [h]
  · next hnil hdashes =>
    constructor
    · intro h
      cases h
    · intro h
      rcases h with h | ⟨rest, hrest⟩
      · exact absurd h hnil
      · exact absurd hrest.symm (hdashes rest)

variable {number : Nat} {raw : List Char}

theorem trimmed_withoutBreak : (⟨number, withoutBreak raw⟩ : Line).trimmed = Text.trim raw := by
  refine Text.trim_dropTrailing (fun c hc => ?_) raw
  have hbreak : c = '\r' ∨ c = '\n' := by simpa using hc
  rcases hbreak with rfl | rfl <;> decide

theorem indent_withoutBreak :
    (⟨number, withoutBreak raw⟩ : Line).indent = (raw.takeWhile (· = ' ')).length := by
  unfold indent
  rw [withoutBreak, Text.takeWhile_dropTrailing]
  intro c hc
  have hbreak : c = '\r' ∨ c = '\n' := by simpa using hc
  rcases hbreak with rfl | rfl <;> decide

theorem isComment_withoutBreak_iff {x : String} :
    (⟨number, withoutBreak x.toList⟩ : Line).isComment = true ↔ SaysNothing x := by
  rw [isComment_iff, trimmed_withoutBreak, SaysNothing]

end Line

/-! ## A line indented anew -/

namespace Reindented

theorem isBlank_of_mem_replicate {depth : Nat} {c : Char} (h : c ∈ List.replicate depth ' ') :
    Text.isBlank c = true := by
  rw [List.eq_of_mem_replicate h]
  decide

theorem trim_eq {depth : Nat} {text gap : List Char} (hgap : IsGap gap) :
    Text.trim (List.replicate depth ' ' ++ text ++ gap) = Text.trim text := by
  rw [Text.trim_append_blank fun c hc => (hgap c hc).1,
    Text.trim_blank_append fun c hc => isBlank_of_mem_replicate hc]

theorem takeWhile_eq {depth : Nat} {first : Char} {more gap : List Char} (hfirst : first ≠ ' ') :
    (List.replicate depth ' ' ++ (first :: more) ++ gap).takeWhile (· = ' ') =
      List.replicate depth ' ' := by
  have hspaces : ∀ c ∈ List.replicate depth ' ', decide (c = ' ') = true := by
    intro c hc
    simpa using List.eq_of_mem_replicate hc
  rw [List.append_assoc, List.takeWhile_append_of_pos hspaces, List.cons_append]
  simp [hfirst]

variable {f : Nat → Nat} {x y : String}

theorem trim (h : Reindented f x y) : Text.trim y.toList = Text.trim x.toList := by
  obtain ⟨depth, first, more, oldGap, newGap, -, hold, hnew, hx, hy⟩ := h
  rw [hx, hy, trim_eq hold, trim_eq hnew]

theorem saysNothing_iff (h : Reindented f x y) : SaysNothing y ↔ SaysNothing x := by
  unfold SaysNothing
  rw [h.trim]

theorem mem_tab_iff (h : Reindented f x y) : '\t' ∈ y.toList ↔ '\t' ∈ x.toList := by
  obtain ⟨depth, first, more, oldGap, newGap, -, hold, hnew, hx, hy⟩ := h
  have hgap : ∀ gap, IsGap gap → '\t' ∉ gap := fun gap hg hmem => (hg _ hmem).2 rfl
  have hspaces : ∀ n, '\t' ∉ List.replicate n ' ' := by simp
  simp only [hx, hy, List.mem_append, hgap _ hold, hgap _ hnew, hspaces, false_or, or_false]

/-- The lines read from it are alike, wherever they stand. -/
theorem alike (h : Reindented f x y) (n m : Nat) :
    Line.Alike f ⟨n, Line.withoutBreak x.toList⟩ ⟨m, Line.withoutBreak y.toList⟩ where
  trimmed := by rw [Line.trimmed_withoutBreak, Line.trimmed_withoutBreak, h.trim]
  indent := by
    obtain ⟨depth, first, more, oldGap, newGap, hfirst, -, -, hx, hy⟩ := h
    rw [Line.indent_withoutBreak, Line.indent_withoutBreak, hx, hy, takeWhile_eq hfirst,
      takeWhile_eq hfirst, List.length_replicate, List.length_replicate]

end Reindented

/-! ## A template laid out anew -/

namespace Line

theorem significant_cons_of_saysNothing {x : String} {n : Nat} {lines : List Line}
    (h : SaysNothing x) :
    significant (⟨n, withoutBreak x.toList⟩ :: lines) = significant lines := by
  apply List.filter_cons_of_neg
  simp [isComment_withoutBreak_iff.mpr h]

theorem significant_cons_of_not_saysNothing {x : String} {n : Nat} {lines : List Line}
    (h : ¬ SaysNothing x) :
    significant (⟨n, withoutBreak x.toList⟩ :: lines) =
      ⟨n, withoutBreak x.toList⟩ :: significant lines := by
  apply List.filter_cons_of_pos
  have hcomment : ¬ (⟨n, withoutBreak x.toList⟩ : Line).isComment = true := by
    rwa [isComment_withoutBreak_iff]
  simpa using hcomment

end Line

namespace Relaid

variable {f : Nat → Nat} {old new : List String}

theorem forall_no_tab_iff (h : Relaid f old new) :
    (∀ r ∈ new, '\t' ∉ r.toList) ↔ ∀ r ∈ old, '\t' ∉ r.toList := by
  induction h with
  | nil => exact Iff.rfl
  | line _ hxy _ ih => rw [List.forall_mem_cons, List.forall_mem_cons, hxy.mem_tab_iff, ih]
  | kept _ _ ih => rw [List.forall_mem_cons, List.forall_mem_cons, ih]
  | inserted _ htab _ ih =>
    rw [List.forall_mem_cons, ih]
    exact and_iff_right htab
  | deleted _ htab _ ih =>
    rw [List.forall_mem_cons, ih]
    exact (and_iff_right htab).symm

/-- The numbers of the lines that say something have changed, and their depths in step. -/
theorem alike (h : Relaid f old new) (n m : Nat) :
    List.Forall₂ (Line.Alike f)
      (Line.significant (Line.enumerate n (old.map fun r => Line.withoutBreak r.toList)))
      (Line.significant (Line.enumerate m (new.map fun r => Line.withoutBreak r.toList))) := by
  induction h generalizing n m with
  | nil => exact .nil
  | line hx hxy _ ih =>
    have hy := (not_congr hxy.saysNothing_iff).mpr hx
    rw [List.map_cons, List.map_cons, Line.enumerate, Line.enumerate,
      Line.significant_cons_of_not_saysNothing hx, Line.significant_cons_of_not_saysNothing hy]
    exact .cons (hxy.alike n m) (ih _ _)
  | kept hx _ ih =>
    rw [List.map_cons, List.map_cons, Line.enumerate, Line.enumerate,
      Line.significant_cons_of_saysNothing hx, Line.significant_cons_of_saysNothing hx]
    exact ih _ _
  | inserted hx _ _ ih =>
    rw [List.map_cons, Line.enumerate, Line.significant_cons_of_saysNothing hx]
    exact ih _ _
  | deleted hx _ _ ih =>
    rw [List.map_cons, Line.enumerate, Line.significant_cons_of_saysNothing hx]
    exact ih _ _

theorem alike_significantLines (h : Relaid f old new) :
    List.Forall₂ (Line.Alike f) (significantLines old) (significantLines new) := by
  have hlines := h.alike 1 1
  unfold significantLines Line.numbered
  rw [List.map_map, List.map_map]
  exact hlines

end Relaid

/-- **Only the order of depths matters.** A template laid out anew parses when it did before, and to
the same table: the same names in the same order, each with the same tree. -/
theorem parseLines_relaid {f : Nat → Nat} (hf : StrictMono f) {old new : List String}
    (h : Relaid f old new) (strict : Bool) (table : Table) :
    parseLines new strict = .ok table ↔ parseLines old strict = .ok table := by
  simp only [parseLines_eq_ok_iff_of_strict, h.forall_no_tab_iff,
    readsAs_iff_of_alike hf h.alike_significantLines]

/-- Other steps of indentation, a comment at the root among the lines of a block, and blanks of
several kinds at the ends of lines. -/
theorem parseLines_relaid_steps :
    let old := ["@NAME(A)", "  @WHERE", "-- note", "     a = 1", "", "    @AND(:x) ", "       b"]
    let new := [" @NAME(A)\u00a0\r\n", "     @WHERE", "           a = 1   ", "\u3000",
      "         @AND(:x)", "-- root", "               b"]
    StrictMono (fun n => 2 * n + 1) ∧ Relaid (fun n => 2 * n + 1) old new ∧
      ∃ table, parseLines old true = .ok table ∧ parseLines new true = .ok table := by
  intro old new
  have hf : StrictMono (fun n => 2 * n + 1) := by
    intro a b hab
    simp only
    omega
  have h : Relaid (fun n => 2 * n + 1) old new := by
    refine .line (by decide) ⟨0, '@', "NAME(A)".toList, [], ['\u00a0', '\r', '\n'], by decide⟩ ?_
    refine .line (by decide) ⟨2, '@', "WHERE".toList, [], [], by decide⟩ ?_
    refine .deleted (by decide) (by decide) ?_
    refine .line (by decide) ⟨5, 'a', " = 1".toList, [], [' ', ' ', ' '], by decide⟩ ?_
    refine .deleted (by decide) (by decide) (.inserted (by decide) (by decide) ?_)
    refine .line (by decide) ⟨4, '@', "AND(:x)".toList, [' '], [], by decide⟩ ?_
    refine .inserted (by decide) (by decide) ?_
    exact .line (by decide) ⟨7, 'b', [], [], [], by decide⟩ .nil
  let table : Table := [("A", .block (.named "A") [.block .filter [.text "a = 1 ",
    .block (.test .conjunct ⟨"x", none⟩) [.text "b "]]])]
  have hold : parseLines old true = .ok table := by cbv
  exact ⟨hf, h, table, hold, (parseLines_relaid hf h true table).mpr hold⟩

end SqlTemplate
