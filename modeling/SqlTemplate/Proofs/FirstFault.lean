import SqlTemplate.Proofs.Blame
import SqlTemplate.Proofs.Numbering

/-!
# The number of a fault

A fault is reported by the number of a raw line, and the blank lines and comments that were left out
before reading count. So the line that settles the fault among those that say something has to be
found again in the file: **the raw lines above it are the ones numbered before it**, and they say
what the lines above it said. After that the number can be trusted for what it is used for. Cutting
the file at that line, whatever then follows, leaves the fault as it is; cutting it above that line
leaves nothing wrong.
-/

set_option autoImplicit false

namespace SqlTemplate
namespace Line

/-- A raw line at its place in the file. -/
def ofRaw (number : Nat) (raw : String) : Line := ⟨number, withoutBreak raw.toList⟩

theorem enumerate_eq_append_cons {start : Nat} {raw : List (List Char)} {before after : List Line}
    {line : Line} (h : enumerate start raw = before ++ line :: after) :
    ∃ above r below, raw = above ++ r :: below ∧ enumerate start above = before ∧
      line = ⟨start + above.length, r⟩ := by
  induction before generalizing start raw with
  | nil =>
    cases raw with
    | nil => cases h
    | cons r below =>
      cases h
      exact ⟨[], r, below, rfl, rfl, rfl⟩
  | cons first before ih =>
    cases raw with
    | nil => cases h
    | cons x raw =>
      rw [enumerate, List.cons_append] at h
      obtain ⟨hfirst, hrest⟩ := List.cons.inj h
      obtain ⟨above, r, below, rfl, habove, rfl⟩ := ih hrest
      refine ⟨x :: above, r, below, rfl, ?_, ?_⟩
      · rw [enumerate, hfirst, habove]
      · rw [List.length_cons, Nat.add_assoc, Nat.add_comm 1]

end Line

/-- A line that says something is found among the raw lines by its number. -/
theorem significantLines_eq_append_cons {raw : List String} {before after : List Line} {line : Line}
    (h : significantLines raw = before ++ line :: after) :
    ∃ above r below, raw = above ++ r :: below ∧ significantLines above = before ∧
      line = Line.ofRaw (above.length + 1) r ∧ line.isComment = false := by
  obtain ⟨first, later, hparts, hbefore, hlater⟩ := List.filter_eq_append_iff.mp h
  obtain ⟨silent, after', rfl, hsilent, hline, -⟩ := List.filter_eq_cons_iff.mp hlater
  rw [← List.append_assoc] at hparts
  obtain ⟨above', r', below', hraw, habove, rfl⟩ := Line.enumerate_eq_append_cons hparts
  rw [List.map_map] at hraw
  obtain ⟨above, rest, rfl, rfl, hrest⟩ := List.map_eq_append_iff.mp hraw
  obtain ⟨r, below, rfl, rfl, rfl⟩ := List.map_eq_cons_iff.mp hrest
  refine ⟨above, r, below, rfl, ?_, ?_, by simpa using hline⟩
  · have hnone : silent.filter (fun line => !line.isComment) = [] := by
      rw [List.filter_eq_nil_iff]
      exact hsilent
    unfold significantLines Line.significant Line.numbered
    rw [List.map_map, habove, List.filter_append, hbefore, hnone, List.append_nil]
  · rw [List.length_map, Nat.add_comm]
    rfl

theorem significantLines_concat {above : List String} {r : String} {number : Nat}
    (h : (Line.ofRaw number r).isComment = false) :
    significantLines (above ++ [r]) =
      significantLines above ++ [Line.ofRaw (above.length + 1) r] := by
  have hone : significantLines [r] = [Line.ofRaw 1 r] := by
    have hsame : (Line.ofRaw 1 r).isComment = false := h
    show [Line.ofRaw 1 r].filter (fun line => !line.isComment) = _
    rw [List.filter_cons, hsame]
    rfl
  rw [significantLines_append, hone, Nat.add_comm]
  rfl

theorem parseLines_false_eq_error_iff {raw : List String} (htabs : ∀ r ∈ raw, '\t' ∉ r.toList)
    {e : FormatError} :
    parseLines raw false = .error e ↔ (readDefinitions (significantLines raw)).fault = some e := by
  rw [parseLines_eq_of_no_tab htabs]
  obtain ⟨ds, fault⟩ := readDefinitions (significantLines raw)
  cases fault <;> simp [Reading.table]

/-- Lines without a fault, a missing body at their end apart: if they say nothing, they are a
template, and otherwise any plain line that is deeper than all of them makes them one. -/
structure BeginsTemplate (above : List String) : Prop where
  silent : significantLines above = [] → parseLines above false = .ok []
  completed : significantLines above ≠ [] → ∀ z : String, '\t' ∉ z.toList →
    (Line.ofRaw (above.length + 1) z).Plain →
    (∀ x ∈ significantLines above, x.deeper (Line.ofRaw (above.length + 1) z) = true) →
    ∃ table, parseLines (above ++ [z]) false = .ok table

theorem SettledAtRoot.beginsTemplate {e : FormatError} {line : Line} {above : List String}
    (htabs : ∀ r ∈ above, '\t' ∉ r.toList) (h : SettledAtRoot e (significantLines above) line) :
    BeginsTemplate above where
  silent hnone := by
    refine parseLines_eq_ok_iff.mpr ⟨htabs, [], ?_, rfl⟩
    rw [hnone]
    exact readsAs_nil_iff.mpr rfl
  completed hsome z hz hplain hdeep := by
    obtain ⟨entries, hentries⟩ := h.viable hsome _ hplain hdeep
    refine ⟨_, parseLines_eq_ok_iff.mpr ⟨?_, entries, ?_, rfl⟩⟩
    · intro r hr
      rcases List.mem_append.mp hr with hr | hr
      · exact htabs r hr
      · rw [List.mem_singleton.mp hr]
        exact hz
    · rw [significantLines_concat hplain.significant]
      exact hentries

theorem SettledAtRoot.parseLines_eq_error {e : FormatError} {above below : List String} {r : String}
    (htabs : ∀ x ∈ above ++ [r], '\t' ∉ x.toList) (hbelow : ∀ y ∈ below, '\t' ∉ y.toList)
    (hr : (Line.ofRaw (above.length + 1) r).isComment = false)
    (h : SettledAtRoot e (significantLines above) (Line.ofRaw (above.length + 1) r))
    (hunmended : e.Unmended (Line.ofRaw (above.length + 1) r) (significantLines below)) :
    parseLines (above ++ [r] ++ below) false = .error e := by
  rw [parseLines_false_eq_error_iff (List.forall_mem_append.mpr ⟨htabs, hbelow⟩),
    significantLines_append, significantLines_concat hr, List.append_assoc, List.singleton_append]
  refine h.final _ fun keyword hproblem y hy => ?_
  -- where the lines below stand in the file does not make them deeper
  rw [List.head?_map] at hy
  obtain ⟨first, hfirst, rfl⟩ := Option.map_eq_some_iff.mp hy
  exact hunmended keyword hproblem first hfirst

/-- **A fault is that of the first line that makes the file unreadable.** The number is that of a
line that says something, and the fault shows that line. The lines before it have no fault, and with
it any lines that come after, tabs and a missing body apart, have this fault. A tab anywhere is the
fault before all others, at the first line that has one. -/
theorem parseLines_blames_first (raw : List String) :
    ((∀ r ∈ raw, '\t' ∉ r.toList) → ∀ e, parseLines raw false = .error e →
      ∃ r, 1 ≤ e.line.number ∧ e.line.number ≤ raw.length ∧
        raw[e.line.number - 1]? = some r ∧
        (Line.ofRaw e.line.number r).isComment = false ∧
        e.Blames (Line.ofRaw e.line.number r) ∧
        BeginsTemplate (raw.take (e.line.number - 1)) ∧
        ∀ below : List String, (∀ y ∈ below, '\t' ∉ y.toList) →
          e.Unmended (Line.ofRaw e.line.number r) (significantLines below) →
          parseLines (raw.take e.line.number ++ below) false = .error e) ∧
    ((∃ r ∈ raw, '\t' ∈ r.toList) →
      ∃ above r below, raw = above ++ r :: below ∧ (∀ x ∈ above, '\t' ∉ x.toList) ∧
        '\t' ∈ r.toList ∧
        ∀ strict, parseLines raw strict = .error ⟨.tab, Line.ofRaw (above.length + 1) r⟩) := by
  constructor
  · intro htabs e he
    obtain ⟨before, line, after, hsplit, hsettled⟩ :=
      readDefinitions_settled ((parseLines_false_eq_error_iff htabs).mp he)
    obtain ⟨above, r, below, rfl, rfl, rfl, hr⟩ := significantLines_eq_append_cons hsplit
    have hnumber : e.line.number = above.length + 1 := hsettled.blames.number
    have htake : (above ++ r :: below).take (above.length + 1) = above ++ [r] := by
      rw [List.append_cons, List.take_append_of_le_length (by simp)]
      exact List.take_of_length_le (by simp)
    rw [List.append_cons, List.forall_mem_append] at htabs
    rw [hnumber, htake, Nat.add_sub_cancel, List.take_left]
    refine ⟨r, Nat.le_add_left 1 _, ?_, ?_, hr, hsettled.blames, ?_, ?_⟩
    · rw [List.length_append, List.length_cons]
      omega
    · rw [List.getElem?_append_right (Nat.le_refl _), Nat.sub_self]
      rfl
    · exact hsettled.beginsTemplate (List.forall_mem_append.mp htabs.1).1
    · intro ys hys hunmended
      exact hsettled.parseLines_eq_error htabs.1 hys hr hunmended
  · intro htab
    obtain ⟨above, r, below, rfl, habove, hr⟩ := exists_first_tab htab
    refine ⟨above, r, below, rfl, habove, hr, fun strict => ?_⟩
    exact parseLines_eq_error_of_tab strict habove hr

/-- A `@LIKE` without a variable, after another tag on its line; and a tab below a tag that is not
written in its form. -/
theorem parseLines_blames_first_like :
    let raw := ["-- Searching", "@NAME(Search)", "  SELECT @INCLUDE(Columns) WHERE x @LIKE y"]
    let e : FormatError := ⟨.malformed "@LIKE".toList, 3, " WHERE x @LIKE y".toList⟩
    let tabbed := ["@NAME(Search", "-- \t"]
    (∀ r ∈ raw, '\t' ∉ r.toList) ∧ parseLines raw false = .error e ∧
    (∃ r, raw[2]? = some r ∧ e.Blames (Line.ofRaw 3 r)) ∧
    (∃ table, parseLines ["-- Searching", "@NAME(Search)", "  SELECT 1"] false = .ok table) ∧
    parseLines (raw ++ ["@WHERE"]) false = .error e ∧
    (∃ r ∈ tabbed, '\t' ∈ r.toList) ∧
    ∃ above r below, tabbed = above ++ r :: below ∧ (∀ x ∈ above, '\t' ∉ x.toList) ∧
      '\t' ∈ r.toList ∧
      ∀ strict, parseLines tabbed strict = .error ⟨.tab, Line.ofRaw (above.length + 1) r⟩ := by
  intro raw e tabbed
  have htabs : ∀ r ∈ raw, '\t' ∉ r.toList := by decide
  have he : parseLines raw false = .error e := by cbv
  have htabbed : ∃ r ∈ tabbed, '\t' ∈ r.toList := by decide
  obtain ⟨r, -, -, hr, -, hblames, hbegins, hfinal⟩ := (parseLines_blames_first raw).1 htabs e he
  refine ⟨htabs, he, ⟨r, hr, hblames⟩, ?_, ?_, htabbed, (parseLines_blames_first tabbed).2 htabbed⟩
  · have hplain : (Line.ofRaw 3 "  SELECT 1").Plain := ⟨by decide, by decide, by decide⟩
    exact hbegins.completed (by decide) "  SELECT 1" (by decide) hplain (by decide)
  · refine hfinal ["@WHERE"] (by decide) ?_
    intro keyword hproblem
    cases hproblem

end SqlTemplate
