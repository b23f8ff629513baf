import SqlTemplate.Bundle
import SqlTemplate.Proofs.Agreement
import SqlTemplate.Proofs.Concatenation

/-!
# Several files, and one file made of them

A name can be defined again in the same file and in a later file, and the order of names tells the
two apart: in one file the later definition takes over the place too, across files the name stays
where it was first. **For everything but that order they are the same**, the last definition wins.
So a dialect's file of overrides may as well be pasted below the file that it overrides, provided
that its first line is not indented.

Lookups say it. In a table made in either way a name has the tree that the last file defining it
gives it, and rendering asks a table for nothing else.
-/

set_option autoImplicit false

namespace SqlTemplate

namespace Entries

variable {κ ν : Type} [BEq κ] [LawfulBEq κ]

theorem find?_put (key other : κ) (value : ν) (entries : List (κ × ν)) :
    find? other (put key value entries) = (find? other [(key, value)]).or (find? other entries) := by
  by_cases h : other = key
  · subst h
    simp [find?]
  · rw [find?_put_of_ne h]
    simp [find?, Ne.symm h]

/-- Of entries stored one after the other, the last with a key is found. -/
theorem find?_putAll (key : κ) (new entries : List (κ × ν)) :
    find? key (putAll new entries) = (find? key new.reverse).or (find? key entries) := by
  induction new generalizing entries with
  | nil => rfl
  | cons n rest ih =>
    have hstep : putAll (n :: rest) entries = putAll rest (put n.1 n.2 entries) := rfl
    rw [hstep, ih, find?_put, List.reverse_cons, find?_append, Option.or_assoc]

theorem find?_eq_some_iff_of_nodup {key : κ} {value : ν} {entries : List (κ × ν)}
    (h : (keys entries).Nodup) : find? key entries = some value ↔ (key, value) ∈ entries := by
  constructor
  · exact mem_of_find?
  · intro hmem
    induction entries with
    | nil => cases hmem
    | cons e rest ih =>
      obtain ⟨k, v⟩ := e
      obtain ⟨hk, hrest⟩ := List.nodup_cons.mp h
      rcases List.mem_cons.mp hmem with heq | hmem
      · cases heq
        simp [find?]
      · have hne : k ≠ key := by
          intro heq
          exact hk (heq ▸ List.mem_map.mpr ⟨_, hmem, rfl⟩)
        simpa [find?, hne] using ih hrest hmem

/-- Where no key occurs twice, the order of entries does not matter for what is found. -/
theorem find?_reverse {entries : List (κ × ν)} (h : (keys entries).Nodup) (key : κ) :
    find? key entries.reverse = find? key entries := by
  have hreverse : (keys entries.reverse).Nodup := by
    rw [keys, List.map_reverse]
    exact List.nodup_reverse.mpr h
  refine Option.ext fun value => ?_
  rw [find?_eq_some_iff_of_nodup h, find?_eq_some_iff_of_nodup hreverse, List.mem_reverse]

theorem find?_filter (p : κ → Bool) (key : κ) (entries : List (κ × ν)) :
    find? key (entries.filter fun e => p e.1) = if p key then find? key entries else none := by
  induction entries with
  | nil => simp [find?]
  | cons e rest ih =>
    obtain ⟨k, v⟩ := e
    by_cases hk : k = key
    · subst hk
      by_cases hp : p k = true
      · simp [find?, hp]
      · simpa [find?, hp] using ih
    · by_cases hp : p k = true
      · simpa [find?, hp, hk] using ih
      · simpa [find?, hp, hk] using ih

theorem keys_put (key : κ) (value : ν) (entries : List (κ × ν)) :
    keys (put key value entries) =
      if key ∈ keys entries then keys entries else keys entries ++ [key] := by
  split
  · next h => exact keys_put_of_mem value h
  · next h => rw [put_of_not_mem value h, keys, List.map_append]; rfl

theorem nodup_keys_put (key : κ) (value : ν) {entries : List (κ × ν)}
    (h : (keys entries).Nodup) : (keys (put key value entries)).Nodup := by
  rw [keys_put]
  split
  · exact h
  · next hnew =>
    exact List.nodup_append.2 ⟨h, List.nodup_singleton key, fun k hk k' hk' heq =>
      hnew (List.mem_singleton.1 hk' ▸ heq ▸ hk)⟩

/-- Entries stored one after the other stand in the order in which their keys first came. -/
theorem keys_putAll (new : List (κ × ν)) {entries : List (κ × ν)}
    (h : (keys entries).eraseDups = keys entries) :
    keys (putAll new entries) = (keys entries ++ keys new).eraseDups := by
  induction new generalizing entries with
  | nil =>
    show keys entries = (keys entries ++ []).eraseDups
    rw [List.append_nil, h]
  | cons n rest ih =>
    have hstep : putAll (n :: rest) entries = putAll rest (put n.1 n.2 entries) := rfl
    have hcons : keys (n :: rest) = n.1 :: keys rest := rfl
    rw [hstep, hcons]
    have hput := keys_put n.1 n.2 entries
    by_cases hmem : n.1 ∈ keys entries
    · -- the key keeps its place, and coming again it adds nothing
      rw [if_pos hmem] at hput
      rw [ih (by rw [hput, h]), hput, List.eraseDups_append, List.eraseDups_append,
        List.cons_removeAll, if_neg (by simpa using hmem)]
    · rw [if_neg hmem] at hput
      have hlast : (keys entries ++ [n.1]).eraseDups = keys entries ++ [n.1] := by
        rw [List.eraseDups_append, h, List.cons_removeAll, if_pos (by simpa using hmem)]
        rfl
      rw [ih (by rw [hput, hlast]), hput, List.append_assoc]
      rfl

end Entries

/-! ## The table of several files -/

theorem mergeTables_eq_putAll (tables : List Table) :
    mergeTables tables = Entries.putAll tables.flatten [] := by
  unfold mergeTables Entries.putAll
  rw [List.foldl_flatten]
  rfl

/-- The names of several files stand in the order in which they first came. -/
theorem keys_mergeTables (tables : List Table) :
    Entries.keys (mergeTables tables) = (tables.flatMap Entries.keys).eraseDups := by
  rw [mergeTables_eq_putAll, Entries.keys_putAll _ rfl]
  unfold Entries.keys
  rw [List.map_flatten, List.flatMap_def]
  rfl

/-- A name has the tree of the last file that defines it. -/
theorem find?_mergeTables {tables : List Table} (h : ∀ t ∈ tables, (Entries.keys t).Nodup)
    (name : String) :
    Entries.find? name (mergeTables tables) = tables.reverse.findSome? (Entries.find? name) := by
  have hlast : Entries.find? name tables.flatten.reverse =
      tables.reverse.findSome? (Entries.find? name) := by
    induction tables with
    | nil => rfl
    | cons t rest ih =>
      obtain ⟨ht, hrest⟩ := List.forall_mem_cons.mp h
      rw [List.flatten_cons, List.reverse_append, Entries.find?_append, ih hrest,
        Entries.find?_reverse ht, List.reverse_cons, List.findSome?_append]
      simp
  rw [mergeTables_eq_putAll, Entries.find?_putAll, hlast]
  exact Option.or_none

/-- The earlier table answers for the names that the later one does not have. -/
theorem Table.find?_followedBy (earlier later : Table) (name : String) :
    Entries.find? name (earlier.followedBy later) =
      (Entries.find? name later).or (Entries.find? name earlier) := by
  unfold Table.followedBy
  rw [Entries.find?_append, Entries.find?_filter fun key => !(Entries.keys later).contains key]
  cases hlater : Entries.find? name later with
  | none =>
    have hmem : name ∉ Entries.keys later := by
      rw [← Entries.find?_isSome_iff, hlater]
      simp
    simp [hmem]
  | some tree =>
    have hmem : name ∈ Entries.keys later := by
      rw [← Entries.find?_isSome_iff, hlater]
      rfl
    simp [hmem]

/-! ## The tables that parsing gives -/

theorem Reading.table_false_of_table {r : Reading} {strict : Bool} {table : Table}
    (h : r.table strict = .ok table) : r.table false = .ok table := by
  cases strict with
  | false => exact h
  | true =>
    unfold Reading.table at h ⊢
    split at h
    · cases h
    · exact h

/-- Where a file is read strictly, reading it otherwise makes no difference. -/
theorem parseLines_false_of_parseLines {raw : List String} {strict : Bool} {table : Table}
    (h : parseLines raw strict = .ok table) : parseLines raw false = .ok table :=
  Reading.table_false_of_table h

theorem nodup_keys_of_parseLines {raw : List String} {strict : Bool} {table : Table}
    (h : parseLines raw strict = .ok table) : (Entries.keys table).Nodup := by
  obtain ⟨-, entries, -, rfl⟩ := parseLines_eq_ok_iff.mp (parseLines_false_of_parseLines h)
  exact Entries.nodup_keys_latest entries

theorem StartsAtRoot.flatten {files : List (List String)}
    (h : ∀ file ∈ files, StartsAtRoot file) : StartsAtRoot files.flatten := by
  induction files with
  | nil =>
    intro line hline
    cases hline
  | cons file rest ih =>
    obtain ⟨hfile, hrest⟩ := List.forall_mem_cons.mp h
    exact hfile.append (ih hrest)

section Files

variable {files : List (List String)} {strict : Bool} {tables : List Table}

theorem parseFiles_eq_ok
    (h : List.Forall₂ (fun lines table => parseLines lines strict = .ok table) files tables) :
    parseFiles files strict = .ok (mergeTables tables) := by
  have hall : files.mapM (fun lines => parseLines lines strict) = .ok tables := by
    induction h with
    | nil => rfl
    | cons hfile _ ih => rw [List.mapM_cons, hfile, ih]; rfl
  unfold parseFiles
  rw [hall]
  rfl

theorem nodup_keys_of_forall₂
    (h : List.Forall₂ (fun lines table => parseLines lines strict = .ok table) files tables) :
    ∀ t ∈ tables, (Entries.keys t).Nodup := by
  induction h with
  | nil => simp
  | cons hfile _ ih => exact List.forall_mem_cons.mpr ⟨nodup_keys_of_parseLines hfile, ih⟩

/-- The lines of all files parse as one file, in which the last file has its way too. -/
theorem exists_parseLines_flatten
    (h : List.Forall₂ (fun lines table => parseLines lines strict = .ok table) files tables)
    (hroot : ∀ file ∈ files.tail, StartsAtRoot file) :
    ∃ whole, parseLines files.flatten false = .ok whole ∧
      ∀ name, Entries.find? name whole = tables.reverse.findSome? (Entries.find? name) := by
  induction h with
  | nil =>
    refine ⟨[], ?_, fun name => rfl⟩
    exact parseLines_eq_ok_iff.mpr ⟨by simp, [], readsAs_nil_iff.mpr rfl, rfl⟩
  | @cons file table rest more hfile _ ih =>
    have hrest : ∀ f ∈ rest, StartsAtRoot f := hroot
    obtain ⟨whole, hwhole, hfind⟩ := ih fun f hf => hrest f (List.mem_of_mem_tail hf)
    refine ⟨table.followedBy whole, ?_, fun name => ?_⟩
    · exact (parseLines_append_eq_ok_iff (StartsAtRoot.flatten hrest)).mpr
        ⟨table, whole, parseLines_false_of_parseLines hfile, hwhole, rfl⟩
    · rw [Table.find?_followedBy, hfind, List.reverse_cons, List.findSome?_append]
      simp

end Files

/-- **Parsing distributes over putting files together, and overriding comes to the same.** The
table of two parts is that of each, the later one winning. Several files merge to a table in which
each name has the tree of the last file that defines it and stands where it was first. And where
each file after the first begins at the root, the merged files and the file made of all their lines
differ in nothing but the order of names: every name has the same tree, and the same SQL. -/
theorem parsing_distributes :
    (∀ xs ys : List String, StartsAtRoot ys → ∀ table,
      parseLines (xs ++ ys) false = .ok table ↔
        ∃ earlier later, parseLines xs false = .ok earlier ∧ parseLines ys false = .ok later ∧
          table = (earlier.filter fun entry => !(Entries.keys later).contains entry.1) ++ later) ∧
    ∀ (files : List (List String)) (strict : Bool) (tables : List Table),
      List.Forall₂ (fun lines table => parseLines lines strict = .ok table) files tables →
      ∃ merged, parseFiles files strict = .ok merged ∧
        (∀ name, Entries.find? name merged =
          tables.reverse.findSome? fun table => Entries.find? name table) ∧
        Entries.keys merged = (tables.flatMap Entries.keys).eraseDups ∧
        ((∀ file ∈ files.tail, StartsAtRoot file) →
          ∃ whole, parseLines files.flatten false = .ok whole ∧
            (∀ name, Entries.find? name whole = Entries.find? name merged) ∧
            ∀ (dialect : Dialect) (rawAllowed : Bool) (p : Parameters) (name : String),
              Bundle.sql ⟨whole, dialect, rawAllowed⟩ p name =
                Bundle.sql ⟨merged, dialect, rawAllowed⟩ p name) := by
  constructor
  · intro xs ys hroot table
    exact parseLines_append_eq_ok_iff hroot
  · intro files strict tables h
    have hfind := find?_mergeTables (nodup_keys_of_forall₂ h)
    refine ⟨mergeTables tables, parseFiles_eq_ok h, hfind, keys_mergeTables tables, fun hroot => ?_⟩
    obtain ⟨whole, hwhole, hlast⟩ := exists_parseLines_flatten h hroot
    have hsame : ∀ name, Entries.find? name whole = Entries.find? name (mergeTables tables) := by
      intro name
      rw [hlast, hfind]
    refine ⟨whole, hwhole, hsame, fun dialect rawAllowed p name => ?_⟩
    exact Table.render_eq_of_agree fun other _ => hsame other

/-- The overrides of a dialect below the file that they override: `A` takes its place at the end
in the one file, and keeps it across the two. -/
theorem parsing_distributes_overrides :
    let base := ["@NAME(A)", "  1", "@NAME(B)", "  @INCLUDE(A)"]
    let overrides := ["  -- for one dialect", "@NAME(A)", " @IF(:x)", "   2", "@NAME(C)", " 3"]
    let tableA : Table := [("A", .block (.named "A") [.text "1 "]),
      ("B", .block (.named "B") [.inclusion (.fragment "A")])]
    let tableB : Table := [
      ("A", .block (.named "A") [.block (.test .guard ⟨"x", none⟩) [.text "2 "]]),
      ("C", .block (.named "C") [.text "3 "])]
    StartsAtRoot overrides ∧
    List.Forall₂ (fun lines table => parseLines lines true = .ok table) [base, overrides]
      [tableA, tableB] ∧
    (∃ earlier later, parseLines base false = .ok earlier ∧
      parseLines overrides false = .ok later ∧
      [("B", .block (.named "B") [.inclusion (.fragment "A")])] ++ tableB =
        (earlier.filter fun entry => !(Entries.keys later).contains entry.1) ++ later) ∧
    ∃ merged, parseFiles [base, overrides] true = .ok merged ∧
      Entries.keys merged = ["A", "B", "C"] ∧
      ∃ whole, parseLines [base, overrides].flatten false = .ok whole ∧
        ∀ name, Entries.find? name whole = Entries.find? name merged := by
  intro base overrides tableA tableB
  have hhead : (significantLines overrides).head? = some ⟨2, "@NAME(A)".toList⟩ := by cbv
  have hroot : StartsAtRoot overrides := by
    intro line hline
    rw [hhead] at hline
    cases hline
    decide
  have hA : parseLines base true = .ok tableA := by cbv
  have hB : parseLines overrides true = .ok tableB := by cbv
  have htables : List.Forall₂ (fun lines table => parseLines lines true = .ok table)
      [base, overrides] [tableA, tableB] := .cons hA (.cons hB .nil)
  obtain ⟨merged, hmerged, -, hkeys, hsame⟩ := parsing_distributes.2 _ true _ htables
  obtain ⟨whole, hwhole, hfind, -⟩ := hsame (by
    intro file hfile
    rw [List.mem_singleton.mp hfile]
    exact hroot)
  exact ⟨hroot, htables, (parsing_distributes.1 base overrides hroot _).mp (by cbv),
    merged, hmerged, hkeys.trans (by decide), whole, hwhole, hfind⟩

end SqlTemplate
