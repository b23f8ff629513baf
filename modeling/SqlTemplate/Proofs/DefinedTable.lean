import SqlTemplate.Proofs.BlockStructure
import SqlTemplate.Template.Table
import Mathlib

/-!
# The table that a layout describes

What belongs to the root of a template are its definitions, and they make the table. The main
statement is that **parsing succeeds with a table exactly when the layout describes that table**:
the parser neither misses a template that has a meaning nor gives a meaning to one that has none,
and of several definitions of a name it keeps the last, in the last one's place.
-/

set_option autoImplicit false

namespace SqlTemplate

namespace Entries

variable {κ ν : Type} [BEq κ]

/-- Every key with its last value, in the order of the last values. -/
def latest : List (κ × ν) → List (κ × ν)
  | [] => []
  | e :: rest => if (keys rest).contains e.1 then latest rest else e :: latest rest

/-- Redefining keys one after the other leaves what none of them is a key of, and then the last
value of each. -/
theorem foldl_redefine_eq (new entries : List (κ × ν)) :
    new.foldl (fun acc e => redefine e.1 e.2 acc) entries =
      (entries.filter fun e => !(keys new).contains e.1) ++ latest new := by
  induction new generalizing entries with
  | nil =>
    have hall : (entries.filter fun e => !(keys ([] : List (κ × ν))).contains e.1) = entries :=
      List.filter_eq_self.mpr fun _ _ => rfl
    rw [hall, latest, List.append_nil, List.foldl_nil]
  | cons n rest ih =>
    have hold : ((entries.filter fun e => !(e.1 == n.1)).filter fun e =>
        !(keys rest).contains e.1) = entries.filter fun e => !(keys (n :: rest)).contains e.1 := by
      rw [List.filter_filter]
      refine List.filter_congr fun e _ => ?_
      simp only [keys, List.map_cons, List.contains_cons, Bool.not_or]
      rw [Bool.and_comm]
    -- the first value is dropped if its key comes again, and otherwise stands before the rest
    rw [List.foldl_cons, ih, redefine, List.filter_append, erase, hold, latest,
      List.append_assoc, List.filter_cons, List.filter_nil]
    cases (keys rest).contains n.1 <;> rfl

end Entries

/-- A definition and its name. -/
def Fragment.definition? : Fragment → Option (String × Fragment)
  | .block (.named name) children => some (name, .block (.named name) children)
  | _ => none

namespace Outline

/-- The lines that belong to the root are those that start with the keyword of a definition. -/
def DefinesAtRoot (lines : List Line) : Prop :=
  ∀ (i : Nat) (line : Line), lines[i]? = some line →
    (enclosing? lines i = none ↔ BlockTag.ofStart? line.trimmed = some .naming)

/-- The lines describe a table: its names are those of the definitions, each with the last of
them, in the order of these. -/
def Describes (lines : List Line) (table : Table) : Prop :=
  DefinesAtRoot lines ∧ ∃ made, Assigns lines made ∧
    table = Entries.latest (((members lines none).flatMap made).filterMap Fragment.definition?)

/-! ## What belongs to the root, a definition at a time -/

theorem head?_naming {captured : Captures} {head : Head}
    (h : BlockTag.head? .naming captured = some head) : ∃ name, head = .named name := by
  unfold BlockTag.head? at h
  split at h
  · cases h
    exact ⟨_, rfl⟩
  all_goals simp_all [BlockTag.testKind?]

theorem readHead?_naming {text : List Char} {head : Head}
    (h : BlockTag.readHead? .naming text = some head) : ∃ name, head = .named name := by
  obtain ⟨captured, -, hhead⟩ := Option.bind_eq_some_iff.mp h
  exact head?_naming hhead

theorem readDefinition_eq_ok_iff {line : Line} {body : List Line} {d : Definition} :
    readDefinition line body = .ok d ↔
      BlockTag.ofStart? line.trimmed = some .naming ∧
        ∃ name children, BlockTag.readHead? .naming line.trimmed = some (.named name) ∧
          readBody body = .ok children ∧ children ≠ [] ∧ d = ⟨line, name, children⟩ := by
  unfold readDefinition
  cases ht : BlockTag.ofStart? line.trimmed with
  | none => simp
  | some tag =>
    cases tag with
    | naming =>
      simp only [Outcome.bind_eq_ok_iff, readHead_eq_ok_iff, requireBody_eq_ok_iff, true_and]
      constructor
      · intro h
        obtain ⟨head, hhead, children, hchildren, _, ⟨hne, rfl⟩, hd⟩ := h
        obtain ⟨name, rfl⟩ := readHead?_naming hhead
        cases hd
        exact ⟨name, _, hhead, hchildren, hne, rfl⟩
      · intro h
        obtain ⟨name, children, hhead, hchildren, hne, rfl⟩ := h
        exact ⟨_, hhead, children, hchildren, _, ⟨hne, rfl⟩, rfl⟩
    | _ => simp

theorem definesAtRoot_cons_iff {line : Line} {rest : List Line} :
    DefinesAtRoot (line :: rest) ↔
      BlockTag.ofStart? line.trimmed = some .naming ∧
        (∀ x ∈ line.body rest, BlockTag.ofStart? x.trimmed ≠ some .naming) ∧
        DefinesAtRoot (line.afterBody rest) := by
  constructor
  · intro h
    have ht : BlockTag.ofStart? line.trimmed = some .naming :=
      (h 0 line rfl).mp (enclosing?_zero _)
    have hopen : line.opensBlock = true := by rw [Line.opensBlock, ht]; rfl
    refine ⟨ht, ?_, ?_⟩
    · intro x hx hnaming
      -- in the body everything belongs to the tag or deeper, so nothing is at the root
      obtain ⟨j, hj, rfl⟩ := List.mem_iff_getElem.mp hx
      have hroot := (h (j + 1) _ (by rw [getElem?_body hj, List.getElem?_eq_getElem hj])).mpr hnaming
      rw [enclosing?_body hopen hj] at hroot
      cases hown : enclosing? (line.body rest) j <;> simp [hown] at hroot
    · intro k x hk
      obtain ⟨hlt, -⟩ := List.getElem?_eq_some_iff.mp hk
      rw [← h _ x (by rw [getElem?_afterBody k, hk]), enclosing?_afterBody hlt,
        Option.map_eq_none_iff]
  · intro h i x hi
    obtain ⟨ht, hbody, hafter⟩ := h
    have hopen : line.opensBlock = true := by rw [Line.opensBlock, ht]; rfl
    rcases position_cases line rest i with rfl | ⟨j, hj, rfl⟩ | ⟨k, rfl⟩
    · obtain rfl : line = x := by simpa using hi
      exact ⟨fun _ => ht, fun _ => enclosing?_zero _⟩
    · rw [getElem?_body hj] at hi
      rw [enclosing?_body hopen hj]
      constructor
      · intro hroot
        cases hown : enclosing? (line.body rest) j <;> simp [hown] at hroot
      · exact fun hnaming => absurd hnaming (hbody x (List.mem_of_getElem? hi))
    · rw [getElem?_afterBody k] at hi
      obtain ⟨hlt, -⟩ := List.getElem?_eq_some_iff.mp hi
      rw [enclosing?_afterBody hlt, Option.map_eq_none_iff]
      exact hafter k x hi

/-- The named trees that the lines of a template stand for, by the layout. -/
def Define (lines : List Line) (entries : Table) : Prop :=
  DefinesAtRoot lines ∧ ∃ fs, StandFor lines fs ∧ entries = fs.filterMap Fragment.definition?

theorem define_cons_iff {line : Line} {rest : List Line} {entries : Table}
    (hfull : NonBlank rest) :
    Define (line :: rest) entries ↔
      ∃ d others, readDefinition line (line.body rest) = .ok d ∧
        Define (line.afterBody rest) others ∧ entries = (d.name, d.tree) :: others := by
  have hfullBody : NonBlank (line.body rest) := hfull.body
  constructor
  · intro h
    obtain ⟨hroot, fs, hfs, rfl⟩ := h
    obtain ⟨ht, hnone, hrootAfter⟩ := definesAtRoot_cons_iff.mp hroot
    obtain ⟨head, children, siblings, hhead, hbody, hne, hafter, rfl⟩ :=
      (standFor_tag_iff hfullBody ht).mp hfs
    obtain ⟨name, rfl⟩ := readHead?_naming hhead
    have hchildren := (readBody_eq_ok_iff hfullBody).mpr ⟨hnone, hbody⟩
    exact ⟨⟨line, name, children⟩, _, readDefinition_eq_ok_iff.mpr
      ⟨ht, name, children, hhead, hchildren, hne, rfl⟩, ⟨hrootAfter, siblings, hafter, rfl⟩, rfl⟩
  · intro h
    obtain ⟨d, _, hd, ⟨hrootAfter, siblings, hafter, rfl⟩, rfl⟩ := h
    obtain ⟨ht, name, children, hhead, hchildren, hne, rfl⟩ := readDefinition_eq_ok_iff.mp hd
    obtain ⟨hnone, hbody⟩ := (readBody_eq_ok_iff hfullBody).mp hchildren
    exact ⟨definesAtRoot_cons_iff.mpr ⟨ht, hnone, hrootAfter⟩,
      .block (.named name) children :: siblings,
      (standFor_tag_iff hfullBody ht).mpr
        ⟨_, children, siblings, hhead, hbody, hne, hafter, rfl⟩, rfl⟩

/-- **Reading a template is what the layout says**, as far as the definitions go. -/
theorem exists_definitions_iff {lines : List Line} (hfull : NonBlank lines)
    (entries : Table) :
    (∃ ds, readDefinitions lines = ⟨ds, none⟩ ∧ entries = ds.map fun d => (d.name, d.tree)) ↔
      Define lines entries := by
  induction lines using readDefinitions.induct generalizing entries with
  | case1 =>
    rw [readDefinitions]
    constructor
    · intro h
      obtain ⟨ds, h, rfl⟩ := h
      cases h
      exact ⟨fun i line h => by simp at h, [], standFor_nil_iff.mpr rfl, rfl⟩
    · intro h
      obtain ⟨-, fs, hfs, rfl⟩ := h
      rw [standFor_nil_iff.mp hfs]
      exact ⟨[], rfl, rfl⟩
  | case2 line rest e he =>
    rw [readDefinitions, he, define_cons_iff hfull.tail]
    constructor
    · intro h
      obtain ⟨ds, h, -⟩ := h
      cases h
    · intro h
      obtain ⟨d, others, hd, -⟩ := h
      rw [he] at hd
      cases hd
  | case3 line rest d hd ih =>
    have hfullAfter : NonBlank (line.afterBody rest) := hfull.tail.afterBody
    rw [readDefinitions, hd, define_cons_iff hfull.tail]
    constructor
    · intro h
      obtain ⟨ds, h, rfl⟩ := h
      obtain ⟨more, fault, hr⟩ : ∃ more fault, readDefinitions (line.afterBody rest) = ⟨more, fault⟩ :=
        ⟨_, _, rfl⟩
      rw [hr] at h
      cases h
      exact ⟨d, _, hd, (ih hfullAfter _).mp ⟨more, hr, rfl⟩, rfl⟩
    · intro h
      obtain ⟨d', others, hd', hothers, rfl⟩ := h
      obtain rfl : d = d' := by rw [hd] at hd'; exact Except.ok.inj hd'
      obtain ⟨more, hr, rfl⟩ := (ih hfullAfter _).mpr hothers
      exact ⟨d :: more, by rw [hr]; rfl, rfl⟩

end Outline

/-! ## From raw lines to the table -/

theorem Line.mem_enumerate {line : Line} {raw : List (List Char)} {number : Nat}
    (h : line ∈ enumerate number raw) : line.chars ∈ raw := by
  induction raw generalizing number with
  | nil => cases h
  | cons r rest ih =>
    rcases List.mem_cons.mp h with rfl | h
    · exact List.mem_cons_self
    · exact List.mem_cons_of_mem _ (ih h)

theorem Line.mem_of_mem_dropTrailing {p : Char → Bool} {c : Char} {cs : List Char}
    (h : c ∈ Text.dropTrailing p cs) : c ∈ cs := by
  rw [Text.dropTrailing, List.mem_reverse] at h
  simpa using (List.dropWhile_sublist p).subset h

theorem Line.find?_hasTab_eq_none {raw : List (List Char)} (htabs : ∀ r ∈ raw, '\t' ∉ r) :
    (numbered raw).find? hasTab = none := by
  rw [List.find?_eq_none]
  intro line hline
  obtain ⟨r, hr, hchars⟩ := List.mem_map.mp (mem_enumerate hline)
  rw [hasTab, ← hchars, List.contains_iff_mem]
  exact fun h => htabs r hr (mem_of_mem_dropTrailing h)

theorem Line.read_eq_ok {raw : List (List Char)} (htabs : ∀ r ∈ raw, '\t' ∉ r) :
    Line.read raw = .ok (significant (numbered raw)) := by
  rw [Line.read, find?_hasTab_eq_none htabs]

theorem Line.nonBlank_significant (lines : List Line) : Outline.NonBlank (significant lines) := by
  intro line h hnil
  have hfull := (List.mem_filter.mp h).2
  simp [isComment, hnil] at hfull

theorem Reading.table_eq_ok_iff {r : Reading} {table : Table} :
    r.table false = .ok table ↔ r.fault = none ∧ table = tableOf r.definitions := by
  obtain ⟨ds, fault⟩ := r
  cases fault <;> simp [Reading.table, eq_comm]

theorem tableOf_eq_latest (ds : List Definition) :
    tableOf ds = Entries.latest (ds.map fun d => (d.name, d.tree)) := by
  have h := Entries.foldl_redefine_eq (ds.map fun d => (d.name, d.tree)) []
  rw [List.foldl_map] at h
  exact h

theorem describes_iff {lines : List Line} {table : Table} :
    Outline.Describes lines table ↔
      ∃ entries, Outline.Define lines entries ∧ table = Entries.latest entries := by
  constructor
  · intro h
    obtain ⟨hroot, made, ha, rfl⟩ := h
    exact ⟨_, ⟨hroot, _, ⟨made, ha, rfl⟩, rfl⟩, rfl⟩
  · intro h
    obtain ⟨_, ⟨hroot, _, ⟨made, ha, rfl⟩, rfl⟩, rfl⟩ := h
    exact ⟨hroot, made, ha, rfl⟩

/-- **Parsing gives a table exactly when the layout describes it.** -/
theorem parseLines_eq_ok_iff_describes (raw : List String) (htabs : ∀ r ∈ raw, '\t' ∉ r.toList)
    (table : Table) :
    parseLines raw false = .ok table ↔
      Outline.Describes (Line.significant (Line.numbered (raw.map String.toList))) table := by
  have htabs' : ∀ r ∈ raw.map String.toList, '\t' ∉ r := by
    intro r hr
    obtain ⟨text, htext, rfl⟩ := List.mem_map.mp hr
    exact htabs text htext
  have hread := Line.read_eq_ok htabs'
  have hfull : Outline.NonBlank (Line.significant (Line.numbered (raw.map String.toList))) :=
    Line.nonBlank_significant _
  rw [describes_iff, parseLines, readTemplate, hread]
  show (readDefinitions _).table false = .ok table ↔ _
  rw [Reading.table_eq_ok_iff, tableOf_eq_latest]
  constructor
  · intro h
    obtain ⟨hfault, rfl⟩ := h
    exact ⟨_, (Outline.exists_definitions_iff hfull _).mp ⟨_, by rw [← hfault], rfl⟩, rfl⟩
  · intro h
    obtain ⟨entries, hentries, rfl⟩ := h
    obtain ⟨ds, hds, rfl⟩ := (Outline.exists_definitions_iff hfull _).mpr hentries
    rw [hds]
    exact ⟨rfl, rfl⟩

/-- One dedent closes two blocks, a comment closes none, and the second `A` takes the first one's
name. -/
theorem describes_dedents_and_redefinition :
    (∀ r ∈ ["@NAME(A)", "  old", "@NAME(B)", "      @WHERE", "          @AND(:x)",
        "            a = 1", "-- note", "        b", "   c", "@NAME(A)", " new"],
      '\t' ∉ r.toList) ∧
    Outline.Describes (Line.significant (Line.numbered (["@NAME(A)", "  old", "@NAME(B)",
        "      @WHERE", "          @AND(:x)", "            a = 1", "-- note", "        b", "   c",
        "@NAME(A)", " new"].map String.toList)))
      [("B", .block (.named "B")
          [.block .filter [.block (.test .conjunct ⟨"x", none⟩) [.text "a = 1 "], .text "b "],
            .text "c "]),
        ("A", .block (.named "A") [.text "new "])] :=
  ⟨by decide, (parseLines_eq_ok_iff_describes _ (by decide) _).mp (by cbv)⟩

end SqlTemplate
