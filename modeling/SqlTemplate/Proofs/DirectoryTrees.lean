import Mathlib.Data.List.Nodup
import SqlTemplate.Files.Disk

/-!
# Trees of directories

Not every list of entries is a directory: the entries of a directory have different names, and no
name holds a slash. Trees in which this is so are called `Proper`; adding files keeps them so. In
such a tree an entry is known by the path to it, because **paths that look the same are the same**.

A directory has no order. Two lists of entries that differ in nothing but the order, at any depth,
are `Relisted`, and whatever path leads to a directory or a file in the one leads in the other to
the same file and to the same directory, relisted.
-/

set_option autoImplicit false

namespace SqlTemplate

/-! ## Names joined to paths -/

namespace Text

variable {separator : Char}

end Text

/-- No name holds a slash. -/
def SlashFree (names : List String) : Prop := ∀ name ∈ names, '/' ∉ name.toList

namespace Entry

/-- What holds of every entry that is no directory, and of a directory if it holds of all its
entries, holds of every entry. -/
theorem tree_induction {motive : Entry → Prop} (leaf : ∀ e, e.isDirectory = false → motive e)
    (directory : ∀ name entries, (∀ e ∈ entries, motive e) → motive (.directory name entries))
    (e : Entry) : motive e :=
  Entry.rec (motive_2 := fun entries => ∀ e ∈ entries, motive e) (fun _ _ => leaf _ rfl)
    (fun _ => leaf _ rfl) directory (fun _ h => absurd h List.not_mem_nil)
    (fun _ _ he hrest => List.forall_mem_cons.mpr ⟨he, hrest⟩) e

/-! ## Proper trees -/

/-- No name holds a slash, and no two entries of one directory have the same name. -/
inductive Proper : Entry → Prop where
  | leaf {e : Entry} (he : e.isDirectory = false) (hname : '/' ∉ e.name.toList) : Proper e
  | directory {name : String} {entries : List Entry} (hname : '/' ∉ name.toList)
      (hdistinct : (entries.map Entry.name).Nodup) (hentries : ∀ e ∈ entries, Proper e) :
      Proper (.directory name entries)

/-- The entries of a proper directory. -/
structure ProperAll (entries : List Entry) : Prop where
  distinct : (entries.map Entry.name).Nodup
  each : ∀ e ∈ entries, e.Proper

variable {e : Entry} {entries sub : List Entry} {name : String}

theorem ne_directory (he : e.isDirectory = false) : e ≠ .directory name sub := by
  rintro rfl
  cases he

theorem entries_eq_nil (he : e.isDirectory = false) : e.entries = [] := by
  cases e with
  | file => rfl
  | special => rfl
  | directory => cases he

theorem ProperAll.nil : ProperAll [] := ⟨List.nodup_nil, by simp⟩

theorem Proper.properAll_entries (h : e.Proper) : ProperAll e.entries := by
  cases h with
  | leaf he => exact entries_eq_nil he ▸ .nil
  | directory _ hdistinct hentries => exact ⟨hdistinct, hentries⟩

theorem find?_eq_some_iff (h : (entries.map Entry.name).Nodup) :
    find? name entries = some e ↔ e ∈ entries ∧ e.name = name := by
  induction entries with
  | nil => simp [find?]
  | cons f rest ih =>
    obtain ⟨hf, hrest⟩ := List.nodup_cons.mp h
    rw [find?, List.find?_cons, ← find?]
    by_cases hname : f.name = name
    · have hbeq : (f.name == name) = true := beq_iff_eq.mpr hname
      rw [hbeq, Option.some.injEq]
      constructor
      · rintro rfl
        exact ⟨List.mem_cons_self, hname⟩
      · rintro ⟨he, hename⟩
        rcases List.mem_cons.mp he with rfl | he
        · rfl
        · exact absurd (List.mem_map.mpr ⟨e, he, hename.trans hname.symm⟩) hf
    · have hbeq : (f.name == name) = false := beq_eq_false_iff_ne.mpr hname
      rw [hbeq, ih hrest, List.mem_cons]
      constructor
      · exact fun h => ⟨Or.inr h.1, h.2⟩
      · rintro ⟨rfl | he, hename⟩
        · exact absurd hename hname
        · exact ⟨he, hename⟩

theorem mem_of_find? (h : find? name entries = some e) : e ∈ entries :=
  List.mem_of_find?_eq_some h

/-! ### Adding files -/

theorem mem_put {new : Entry} (h : e ∈ put new entries) : e = new ∨ e ∈ entries := by
  induction entries with
  | nil => exact Or.inl (List.mem_singleton.mp h)
  | cons f rest ih =>
    rw [put] at h
    split at h
    · exact (List.mem_cons.mp h).imp_right (List.mem_cons_of_mem f)
    · rcases List.mem_cons.mp h with rfl | h
      · exact Or.inr List.mem_cons_self
      · exact (ih h).imp_right (List.mem_cons_of_mem f)

theorem map_name_put (new : Entry) (entries : List Entry) :
    (put new entries).map Entry.name =
      if new.name ∈ entries.map Entry.name then entries.map Entry.name
      else entries.map Entry.name ++ [new.name] := by
  induction entries with
  | nil => rfl
  | cons f rest ih =>
    rw [put]
    by_cases hname : f.name = new.name
    · rw [if_pos (beq_iff_eq.mpr hname), if_pos (by simp [hname])]
      simp [hname]
    · rw [if_neg (by simpa using hname), List.map_cons, ih, List.map_cons]
      by_cases hmem : new.name ∈ rest.map Entry.name
      · rw [if_pos hmem, if_pos (List.mem_cons_of_mem _ hmem)]
      · rw [if_neg hmem, if_neg (List.not_mem_cons_of_ne_of_not_mem (Ne.symm hname) hmem),
          List.cons_append]

theorem ProperAll.put (h : ProperAll entries) (he : e.Proper) : ProperAll (put e entries) := by
  constructor
  · rw [map_name_put]
    split
    · exact h.distinct
    · next hnew => exact List.nodup_append.mpr ⟨h.distinct, List.nodup_singleton _, by
        rintro a ha b hb rfl
        exact hnew (List.mem_singleton.mp hb ▸ ha)⟩
  · intro f hf
    rcases mem_put hf with rfl | hf
    · exact he
    · exact h.each f hf

/-- What an entry that there may be has below it. -/
theorem ProperAll.getD_entries (h : ProperAll entries) (name : String) :
    ProperAll (((find? name entries).map Entry.entries).getD []) := by
  cases hfind : find? name entries with
  | none => exact .nil
  | some e => exact (h.each e (mem_of_find? hfind)).properAll_entries

theorem ProperAll.add {item : Item} {names : List String} (h : ProperAll entries)
    (hnames : SlashFree names) : ProperAll (add item names entries) := by
  fun_induction Entry.add item names entries with
  | case1 => exact h
  | case2 name entries data => exact h.put (.leaf rfl (hnames name (List.mem_singleton_self name)))
  | case3 name entries => exact h.put (.leaf rfl (hnames name (List.mem_singleton_self name)))
  | case4 name entries =>
    have hbelow := h.getD_entries name
    have hname := hnames name (List.mem_singleton_self name)
    exact h.put (.directory hname hbelow.distinct hbelow.each)
  | case5 name rest hrest entries below ih =>
    obtain ⟨hname, hnames⟩ := List.forall_mem_cons.mp hnames
    have hbelow := ih (h.getD_entries name) hnames
    exact h.put (.directory hname hbelow.distinct hbelow.each)

/-! ## The order of entries -/

/-- Two lists of entries differ in nothing but their order and, in directories, that of the entries
below: the first entry of the one is somewhere in the other, and the remaining ones match. -/
inductive Relisted : List Entry → List Entry → Prop where
  | nil : Relisted [] []
  | leaf {e : Entry} {rest before after : List Entry} (he : e.isDirectory = false)
      (hrest : Relisted rest (before ++ after)) : Relisted (e :: rest) (before ++ e :: after)
  | directory {name : String} {sub sub' rest before after : List Entry} (hsub : Relisted sub sub')
      (hrest : Relisted rest (before ++ after)) :
      Relisted (.directory name sub :: rest) (before ++ .directory name sub' :: after)

namespace Relisted

variable {entries' : List Entry}

theorem mem_middle_iff {new : Entry} {before after : List Entry} :
    e ∈ before ++ new :: after ↔ e = new ∨ e ∈ before ++ after :=
  List.perm_middle.mem_iff.trans List.mem_cons

/-- A directory of the one list is in the other, relisted, … -/
theorem exists_right (h : Relisted entries entries') (hmem : .directory name sub ∈ entries) :
    ∃ sub', .directory name sub' ∈ entries' ∧ Relisted sub sub' := by
  induction h with
  | nil => cases hmem
  | leaf he _ ih =>
    have hrest := (List.mem_cons.mp hmem).resolve_left (ne_directory he).symm
    obtain ⟨sub', hmem', hsub⟩ := ih hrest
    exact ⟨sub', mem_middle_iff.mpr (Or.inr hmem'), hsub⟩
  | @directory name' sub₁ sub₁' rest before after hsub hrest _ ih =>
    rcases List.mem_cons.mp hmem with heq | hmem
    · cases heq
      exact ⟨sub₁', mem_middle_iff.mpr (Or.inl rfl), hsub⟩
    · obtain ⟨sub', hmem', hsub'⟩ := ih hmem
      exact ⟨sub', mem_middle_iff.mpr (Or.inr hmem'), hsub'⟩

/-- … and the other way round. -/
theorem exists_left {sub' : List Entry} (h : Relisted entries entries')
    (hmem : .directory name sub' ∈ entries') :
    ∃ sub, .directory name sub ∈ entries ∧ Relisted sub sub' := by
  induction h with
  | nil => cases hmem
  | leaf he _ ih =>
    have hrest := (mem_middle_iff.mp hmem).resolve_left (ne_directory he).symm
    obtain ⟨sub, hmem', hsub⟩ := ih hrest
    exact ⟨sub, List.mem_cons_of_mem _ hmem', hsub⟩
  | @directory name' sub₁ sub₁' rest before after hsub hrest _ ih =>
    rcases mem_middle_iff.mp hmem with heq | hmem
    · cases heq
      exact ⟨sub₁, List.mem_cons_self, hsub⟩
    · obtain ⟨sub, hmem', hsub'⟩ := ih hmem
      exact ⟨sub, List.mem_cons_of_mem _ hmem', hsub'⟩

theorem perm_names (h : Relisted entries entries') :
    (entries.map Entry.name).Perm (entries'.map Entry.name) := by
  induction h with
  | nil => exact .refl _
  | leaf _ _ ih =>
    rw [List.map_append, List.map_cons]
    exact ((ih.trans (.of_eq List.map_append)).cons _).trans List.perm_middle.symm
  | directory _ _ _ ih =>
    rw [List.map_append, List.map_cons]
    exact ((ih.trans (.of_eq List.map_append)).cons _).trans List.perm_middle.symm

theorem properAll (h : Relisted entries entries') (hproper : ProperAll entries) :
    ProperAll entries' := by
  refine ⟨h.perm_names.nodup_iff.mp hproper.distinct, ?_⟩
  have heach := hproper.each
  clear hproper
  induction h with
  | nil => simp
  | leaf _ _ ih =>
    obtain ⟨hleaf, hrest⟩ := List.forall_mem_cons.mp heach
    intro e he
    rcases mem_middle_iff.mp he with rfl | he
    · exact hleaf
    · exact ih hrest e he
  | directory hsub _ ihsub ih =>
    obtain ⟨hdirectory, hrest⟩ := List.forall_mem_cons.mp heach
    intro e he
    rcases mem_middle_iff.mp he with rfl | he
    · cases hdirectory with
      | leaf he => cases he
      | directory hname hdistinct hentries =>
        exact .directory hname (hsub.perm_names.nodup_iff.mp hdistinct) (ihsub hentries)
    · exact ih hrest e he

end Relisted
end Entry

/-! ## Following a path -/

theorem rel_cases {α β : Type} {r : α → β → Prop} {x : Option α} {y : Option β}
    (h : Option.Rel r x y) :
    x = none ∧ y = none ∨ ∃ a b, x = some a ∧ y = some b ∧ r a b := by
  cases h with
  | none => exact Or.inl ⟨rfl, rfl⟩
  | some hab => exact Or.inr ⟨_, _, rfl, rfl, hab⟩

namespace Position

/-- All directories on the way to a position are proper. -/
structure Proper (p : Position) : Prop where
  entries : Entry.ProperAll p.entries
  above : ∀ directory ∈ p.above, Entry.ProperAll directory.2

/-- The same position in a tree and in that tree relisted. -/
structure Relisted (p q : Position) : Prop where
  entries : Entry.Relisted p.entries q.entries
  above : List.Forall₂ (fun d d' => d.1 = d'.1 ∧ Entry.Relisted d.2 d'.2) p.above q.above

variable {p q : Position} {name : String}

theorem Proper.up (h : p.Proper) : p.up.Proper := by
  rw [Position.up]
  split
  · exact h
  · next directory rest habove =>
    obtain ⟨hdirectory, hrest⟩ := List.forall_mem_cons.mp (habove ▸ h.above)
    exact ⟨hdirectory, hrest⟩

/-- One name leads up, or down into a directory of that name. -/
theorem step?_eq_some_iff (h : p.Proper) :
    p.step? name = some q ↔ name = ".." ∧ q = p.up ∨
      name ≠ ".." ∧ ∃ sub, .directory name sub ∈ p.entries ∧
        q = ⟨(name, p.entries) :: p.above, sub⟩ := by
  rw [step?]
  by_cases hup : name = ".."
  · simp [hup, eq_comm]
  · rw [if_neg hup]
    simp only [hup, false_and, false_or, ne_eq, not_false_eq_true, true_and]
    constructor
    · intro hstep
      split at hstep
      · next name' sub hfind =>
        obtain ⟨hmem, hname⟩ := (Entry.find?_eq_some_iff h.entries.distinct).mp hfind
        obtain rfl : name' = name := hname
        exact ⟨sub, hmem, (Option.some.inj hstep).symm⟩
      · cases hstep
    · rintro ⟨sub, hmem, rfl⟩
      have hfind : Entry.find? name p.entries = some (.directory name sub) :=
        (Entry.find?_eq_some_iff h.entries.distinct).mpr ⟨hmem, rfl⟩
      rw [hfind]

theorem Proper.step (h : p.Proper) (hstep : p.step? name = some q) : q.Proper := by
  rcases (step?_eq_some_iff h).mp hstep with ⟨-, rfl⟩ | ⟨-, sub, hmem, rfl⟩
  · exact h.up
  · exact ⟨(h.entries.each _ hmem).properAll_entries, List.forall_mem_cons.mpr ⟨h.entries, h.above⟩⟩

theorem Proper.walk {names : List String} (h : p.Proper) (hwalk : p.walk? names = some q) :
    q.Proper := by
  induction names generalizing p with
  | nil => exact Option.some.inj hwalk ▸ h
  | cons name rest ih =>
    obtain ⟨next, hstep, hwalk⟩ := Option.bind_eq_some_iff.mp hwalk
    exact ih (h.step hstep) hwalk

namespace Relisted

theorem proper (h : p.Relisted q) (hp : p.Proper) : q.Proper := by
  refine ⟨h.entries.properAll hp.entries, ?_⟩
  have hrelisted := h.above
  have habove := hp.above
  generalize p.above = above at hrelisted habove
  generalize q.above = above' at hrelisted ⊢
  induction hrelisted with
  | nil => simp
  | cons hd _ ih =>
    obtain ⟨hproper, hrest⟩ := List.forall_mem_cons.mp habove
    exact List.forall_mem_cons.mpr ⟨hd.2.properAll hproper, ih hrest⟩

theorem up (h : p.Relisted q) : p.up.Relisted q.up := by
  obtain ⟨above, entries⟩ := p
  obtain ⟨above', entries'⟩ := q
  obtain ⟨hentries, habove⟩ := h
  cases habove with
  | nil => exact ⟨hentries, .nil⟩
  | cons hd hrest => exact ⟨hd.2, hrest⟩

/-- A name leads somewhere from both positions or from neither, and then to the same position. -/
theorem step (h : p.Relisted q) (hp : p.Proper) (name : String) :
    Option.Rel Relisted (p.step? name) (q.step? name) := by
  have hq := h.proper hp
  by_cases hup : name = ".."
  · rw [(step?_eq_some_iff hp).mpr (Or.inl ⟨hup, rfl⟩),
      (step?_eq_some_iff hq).mpr (Or.inl ⟨hup, rfl⟩)]
    exact .some h.up
  · cases hstep : p.step? name with
    | some next =>
      rcases (step?_eq_some_iff hp).mp hstep with ⟨hname, -⟩ | ⟨-, sub, hmem, rfl⟩
      · exact absurd hname hup
      · obtain ⟨sub', hmem', hsub⟩ := h.entries.exists_right hmem
        rw [(step?_eq_some_iff hq).mpr (Or.inr ⟨hup, sub', hmem', rfl⟩)]
        exact .some ⟨hsub, .cons ⟨rfl, h.entries⟩ h.above⟩
    | none =>
      cases hstep' : q.step? name with
      | none => exact .none
      | some next =>
        rcases (step?_eq_some_iff hq).mp hstep' with ⟨hname, -⟩ | ⟨-, sub', hmem', -⟩
        · exact absurd hname hup
        · obtain ⟨sub, hmem, -⟩ := h.entries.exists_left hmem'
          rw [(step?_eq_some_iff hp).mpr (Or.inr ⟨hup, sub, hmem, rfl⟩)] at hstep
          cases hstep

theorem walk (h : p.Relisted q) (hp : p.Proper) (names : List String) :
    Option.Rel Relisted (p.walk? names) (q.walk? names) := by
  induction names generalizing p q with
  | nil => exact .some h
  | cons name rest ih =>
    rw [walk?, walk?]
    rcases rel_cases (h.step hp name) with ⟨hnone, hnone'⟩ | ⟨next, next', hnext, hnext', hrel⟩
    · rw [hnone, hnone']
      exact .none
    · rw [hnext, hnext']
      exact ih hrel (hp.step hnext)

end Relisted
end Position

namespace Disk

/-- The tree of the disk is proper. -/
def Proper (disk : Disk) : Prop := Entry.ProperAll disk.entries

/-- The same disk with the entries of its directories in another order. -/
structure Relisted (disk disk' : Disk) : Prop where
  entries : Entry.Relisted disk.entries disk'.entries
  location : disk.location = disk'.location

variable {disk disk' : Disk} {path : Path}

theorem Proper.root (h : disk.Proper) : Position.Proper ⟨[], disk.entries⟩ := ⟨h, by simp⟩

theorem Proper.directory {place : Position} (h : disk.Proper)
    (hplace : disk.directory? path = some place) : place.Proper :=
  h.root.walk hplace

/-- Adding a file or a directory at names without slashes keeps a tree proper. -/
theorem Proper.add (h : disk.Proper) (hnames : SlashFree (disk.namesOf path))
    (item : Item) : (disk.add path item).Proper :=
  Entry.ProperAll.add h hnames

namespace Relisted

variable (h : disk.Relisted disk') (hproper : disk.Proper)
include h

theorem namesOf_eq (path : Path) : disk.namesOf path = disk'.namesOf path := by
  rw [namesOf, h.location, namesOf]

theorem root : Position.Relisted ⟨[], disk.entries⟩ ⟨[], disk'.entries⟩ := ⟨h.entries, .nil⟩

include hproper

theorem proper : disk'.Proper := h.entries.properAll hproper

/-- A path leads to the same directory, or to none. -/
theorem directory (path : Path) :
    Option.Rel Position.Relisted (disk.directory? path) (disk'.directory? path) := by
  rw [directory?, directory?, ← h.namesOf_eq]
  exact h.root.walk hproper.root _

end Relisted
end Disk
end SqlTemplate
