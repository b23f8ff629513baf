import SqlTemplate.Proofs.Likeness

/-!
# Raw lines and their numbers

A template is a list of raw lines. Reading numbers them, refuses the first tab, and goes on with
the lines that say something. Here is what that does to **raw lines put together**: the lines of
the later part are the lines they are on their own, moved down by the length of the earlier part.
-/

set_option autoImplicit false

namespace SqlTemplate

/-- The lines of a template that say something, with their numbers. -/
def significantLines (raw : List String) : List Line :=
  Line.significant (Line.numbered (raw.map String.toList))

namespace Line

/-- The line further down in its file. -/
def movedDown (n : Nat) (line : Line) : Line := { line with number := line.number + n }

theorem enumerate_append (start : Nat) (xs ys : List (List Char)) :
    enumerate start (xs ++ ys) = enumerate start xs ++ enumerate (start + xs.length) ys := by
  induction xs generalizing start with
  | nil => simp [enumerate]
  | cons x xs ih =>
    simp only [List.cons_append, enumerate, ih, List.length_cons]
    rw [Nat.add_assoc, Nat.add_comm 1]

theorem enumerate_add (start n : Nat) (raw : List (List Char)) :
    enumerate (start + n) raw = (enumerate start raw).map (movedDown n) := by
  induction raw generalizing start with
  | nil => rfl
  | cons x xs ih =>
    rw [enumerate, enumerate, List.map_cons, ← ih, Nat.add_right_comm]
    rfl

theorem significant_append (xs ys : List Line) :
    significant (xs ++ ys) = significant xs ++ significant ys :=
  List.filter_append ..

theorem significant_map_movedDown (n : Nat) (lines : List Line) :
    significant (lines.map (movedDown n)) = (significant lines).map (movedDown n) := by
  unfold significant
  rw [List.filter_map]
  rfl

theorem alike_map_movedDown (n : Nat) (lines : List Line) :
    List.Forall₂ (Alike id) lines (lines.map (movedDown n)) := by
  rw [List.forall₂_map_right_iff, List.forall₂_same]
  exact fun line _ => ⟨rfl, rfl⟩

end Line

theorem significantLines_append (xs ys : List String) :
    significantLines (xs ++ ys) =
      significantLines xs ++ (significantLines ys).map (Line.movedDown xs.length) := by
  unfold significantLines Line.numbered
  rw [List.map_append, List.map_append, Line.enumerate_append, Line.significant_append,
    List.length_map, List.length_map, Line.enumerate_add, Line.significant_map_movedDown]

/-- Where lines stand in the file does not matter for what is read from them. -/
theorem readsAs_map_movedDown_iff (n : Nat) {lines : List Line} {entries : Table} :
    ReadsAs (lines.map (Line.movedDown n)) entries ↔ ReadsAs lines entries :=
  (readsAs_iff_of_alike strictMono_id (Line.alike_map_movedDown n lines)).symm

/-! ## Tabs -/

namespace Line

/-- A raw line without the line break at its end. -/
def withoutBreak (raw : List Char) : List Char :=
  Text.dropTrailing (fun c => c = '\r' || c = '\n') raw

theorem mem_dropTrailing_iff {p : Char → Bool} {c : Char} (hc : p c = false) {cs : List Char} :
    c ∈ Text.dropTrailing p cs ↔ c ∈ cs := by
  constructor
  · exact mem_of_mem_dropTrailing
  · intro h
    rw [← List.mem_reverse, ← List.takeWhile_append_dropWhile (p := p) (l := cs.reverse)] at h
    rw [Text.dropTrailing, List.mem_reverse]
    rcases List.mem_append.mp h with h | h
    · have hp := List.mem_takeWhile_imp h
      rw [hc] at hp
      cases hp
    · exact h

/-- **The first tab is refused**, whatever else the lines hold. -/
theorem read_eq_error_of_tab {before after : List (List Char)} {r : List Char}
    (hbefore : ∀ x ∈ before, '\t' ∉ x) (hr : '\t' ∈ r) :
    Line.read (before ++ r :: after) =
      .error ⟨.tab, ⟨before.length + 1, withoutBreak r⟩⟩ := by
  have hsplit : numbered (before ++ r :: after) = numbered before ++
      ⟨before.length + 1, withoutBreak r⟩ ::
        enumerate (before.length + 2) (after.map withoutBreak) := by
    unfold numbered
    rw [List.map_append, enumerate_append, List.length_map, Nat.add_comm 1]
    rfl
  have htab : hasTab ⟨before.length + 1, withoutBreak r⟩ = true := by
    rw [hasTab, List.contains_iff_mem]
    exact (mem_dropTrailing_iff rfl).mpr hr
  unfold Line.read
  simp only [hsplit, List.find?_append, find?_hasTab_eq_none hbefore, Option.none_or,
    List.find?_cons, htab]

end Line

/-- A list of lines with a tab has a first line with a tab. -/
theorem exists_first_tab {raw : List String} (h : ∃ r ∈ raw, '\t' ∈ r.toList) :
    ∃ before r after, raw = before ++ r :: after ∧ (∀ x ∈ before, '\t' ∉ x.toList) ∧
      '\t' ∈ r.toList := by
  induction raw with
  | nil => simp at h
  | cons x rest ih =>
    by_cases hx : '\t' ∈ x.toList
    · exact ⟨[], x, rest, rfl, by simp, hx⟩
    · have hrest : ∃ r ∈ rest, '\t' ∈ r.toList := by simpa [hx] using h
      obtain ⟨before, r, after, rfl, hbefore, hr⟩ := ih hrest
      exact ⟨x :: before, r, after, rfl, by simpa [hx] using hbefore, hr⟩

theorem parseLines_eq_error_of_tab {before after : List String} {r : String} (strict : Bool)
    (hbefore : ∀ x ∈ before, '\t' ∉ x.toList) (hr : '\t' ∈ r.toList) :
    parseLines (before ++ r :: after) strict =
      .error ⟨.tab, ⟨before.length + 1, Line.withoutBreak r.toList⟩⟩ := by
  have hbefore' : ∀ x ∈ before.map String.toList, '\t' ∉ x := by
    intro x hx
    obtain ⟨text, htext, rfl⟩ := List.mem_map.mp hx
    exact hbefore text htext
  have hread : Line.read (before.map String.toList ++ r.toList :: after.map String.toList) =
      .error ⟨.tab, ⟨before.length + 1, Line.withoutBreak r.toList⟩⟩ := by
    rw [Line.read_eq_error_of_tab hbefore' hr, List.length_map]
  unfold parseLines readTemplate
  rw [List.map_append, List.map_cons, hread]
  cases strict <;> rfl

theorem parseLines_eq_of_no_tab {raw : List String} (htabs : ∀ r ∈ raw, '\t' ∉ r.toList)
    (strict : Bool) :
    parseLines raw strict = (readDefinitions (significantLines raw)).table strict := by
  have htabs' : ∀ r ∈ raw.map String.toList, '\t' ∉ r := by
    intro r hr
    obtain ⟨text, htext, rfl⟩ := List.mem_map.mp hr
    exact htabs text htext
  rw [parseLines, readTemplate, Line.read_eq_ok htabs']
  rfl

/-! ## Success -/

theorem firstTaken?_eq_none_iff {taken : List String} {ds : List Definition} :
    firstTaken? taken ds = none ↔ (ds.map Definition.name).Nodup ∧ ∀ d ∈ ds, d.name ∉ taken := by
  induction ds generalizing taken with
  | nil => simp [firstTaken?]
  | cons d rest ih =>
    unfold firstTaken?
    by_cases hd : d.name ∈ taken
    · simp [hd]
    · rw [if_neg (by simpa using hd), ih, List.map_cons, List.nodup_cons, List.forall_mem_cons]
      simp only [List.mem_cons, not_or, List.mem_map, not_exists, not_and]
      constructor
      · intro h
        exact ⟨⟨fun x hx => (h.2 x hx).1, h.1⟩, hd, fun x hx => (h.2 x hx).2⟩
      · intro h
        exact ⟨h.1.2, fun x hx => ⟨h.1.1 x hx, h.2.2 x hx⟩⟩

/-- Where names must be unique, a table asks for that and for nothing else besides. -/
theorem Reading.table_eq_ok_iff_of_strict {r : Reading} {strict : Bool} {table : Table} :
    r.table strict = .ok table ↔
      r.fault = none ∧ (strict = true → (r.definitions.map Definition.name).Nodup) ∧
        table = tableOf r.definitions := by
  have htaken : firstTaken? [] r.definitions = none ↔ (r.definitions.map Definition.name).Nodup := by
    rw [firstTaken?_eq_none_iff]
    simp
  cases strict with
  | false => simp [Reading.table_eq_ok_iff]
  | true =>
    rw [← htaken]
    unfold Reading.table
    cases hfirst : firstTaken? [] r.definitions with
    | some d => simp
    | none => cases r.fault <;> simp [eq_comm]

theorem keys_definitions (ds : List Definition) :
    Entries.keys (ds.map fun d => (d.name, d.tree)) = ds.map Definition.name := by
  rw [Entries.keys, List.map_map]
  rfl

/-- Parsing gives a table exactly when no line has a tab, the lines are read without a fault, and no
name is defined twice where that is forbidden. -/
theorem parseLines_eq_ok_iff_of_strict {raw : List String} {strict : Bool} {table : Table} :
    parseLines raw strict = .ok table ↔ (∀ r ∈ raw, '\t' ∉ r.toList) ∧
      ∃ entries, ReadsAs (significantLines raw) entries ∧
        (strict = true → (Entries.keys entries).Nodup) ∧ table = Entries.latest entries := by
  by_cases htabs : ∀ r ∈ raw, '\t' ∉ r.toList
  · rw [parseLines_eq_of_no_tab htabs, Reading.table_eq_ok_iff_of_strict, tableOf_eq_latest]
    constructor
    · intro h
      obtain ⟨hfault, hunique, rfl⟩ := h
      refine ⟨htabs, _, ⟨_, by rw [← hfault], rfl⟩, ?_, rfl⟩
      rwa [keys_definitions]
    · intro h
      obtain ⟨-, entries, ⟨ds, hds, rfl⟩, hunique, rfl⟩ := h
      rw [keys_definitions] at hunique
      rw [hds]
      exact ⟨rfl, hunique, rfl⟩
  · have htab : ∃ r ∈ raw, '\t' ∈ r.toList := by simpa using htabs
    obtain ⟨before, r, after, rfl, hbefore, hr⟩ := exists_first_tab htab
    rw [parseLines_eq_error_of_tab strict hbefore hr]
    constructor
    · intro h
      cases h
    · intro h
      exact absurd h.1 htabs

theorem parseLines_eq_ok_iff {raw : List String} {table : Table} :
    parseLines raw false = .ok table ↔ (∀ r ∈ raw, '\t' ∉ r.toList) ∧
      ∃ entries, ReadsAs (significantLines raw) entries ∧ table = Entries.latest entries := by
  simp [parseLines_eq_ok_iff_of_strict]

end SqlTemplate
