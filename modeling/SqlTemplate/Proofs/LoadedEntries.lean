import SqlTemplate.Proofs.Outcome
import SqlTemplate.Proofs.RegistryRuns

/-!
# Entry after entry

A document of dialects is gone through from the front, and each entry is read with the registry that
the entries before it have left. So there is one thing to know about an entry, **which dialect it
makes of which base, or which fault it has**, and one about a document: it is gone through to its
end, or up to the first entry with a fault, and in both cases the entries gone through are the
entries of a document without a fault.

`Derives` and `EntryFault` are the two sides of the first, `Loads` and `StopsAt` of the second. What
is registered on the way is all that the registry afterwards has more than the one before.
-/

set_option autoImplicit false

namespace SqlTemplate
namespace Registry

/-- The entries of a document; one that is not there or is no mapping has none. -/
def entriesOf (document : Option Value) : List (Value × Value) :=
  (document.bind Value.mapping?).getD []

/-- The keys of an entry that it may not have. -/
def unknownKeys (fields : List (Value × Value)) : List Value :=
  (Entries.keys fields).filter fun k => !knownKeys.contains k

/-- The name of the dialect that an entry is based on. -/
def baseName (fields : List (Value × Value)) : String :=
  ((Entries.find? (.str "base") fields).getD Dialect.default.name).text

/-- A dialect is what an entry makes of its base: the base under another name, and with another
suffix if the entry gives one. -/
inductive Derives (name : Value) (fields : List (Value × Value)) (base : Dialect) :
    Dialect → Prop where
  | kept (h : Entries.find? (.str "like_suffix") fields = none) :
      Derives name fields base { base with name := .str name.text }
  | given {suffix : String} (h : Entries.find? (.str "like_suffix") fields = some (.str suffix)) :
      Derives name fields base { base with name := .str name.text, likeSuffix := suffix }

/-- What keeps an entry from declaring a dialect. Each case is come to only if the ones before it
are not the case. -/
inductive EntryFault (r : Registry) (path : String) (name spec : Value) : DocumentFault → Prop where
  | notMapping (h : spec.mapping? = none) :
      EntryFault r path name spec (.entryNotMapping name.text path)
  | unknownKeys {fields : List (Value × Value)} {keys : List Value}
      (hfields : spec.mapping? = some fields) (hunknown : unknownKeys fields ≠ [])
      (horder : Value.inOrder (unknownKeys fields) = .ok keys) :
      EntryFault r path name spec (.unknownKeys name.text keys path)
  | incomparable {fields : List (Value × Value)} {later earlier : String}
      (hfields : spec.mapping? = some fields)
      (horder : Value.inOrder (unknownKeys fields) = .error (later, earlier)) :
      EntryFault r path name spec (.incomparable later earlier)
  | unknownBase {fields : List (Value × Value)} {cause : DialectError}
      (hfields : spec.mapping? = some fields) (hknown : unknownKeys fields = [])
      (hbase : r.get (baseName fields) = .error cause) :
      EntryFault r path name spec (.unknownBase name.text cause)
  | suffixNotText {fields : List (Value × Value)} {base : Dialect} {v : Value}
      (hfields : spec.mapping? = some fields) (hknown : unknownKeys fields = [])
      (hbase : r.get (baseName fields) = .ok base)
      (hsuffix : Entries.find? (.str "like_suffix") fields = some v)
      (hsort : ∀ suffix, v ≠ .str suffix) :
      EntryFault r path name spec (.suffixNotText name.text)

/-- What ends a loading at an entry: the entry declares no dialect, or one that cannot be
registered. -/
inductive StopsAt (r : Registry) (path : String) (replace : Bool) (name spec : Value) :
    DocumentFault → Prop where
  | declaring {e : DocumentFault} (h : EntryFault r path name spec e) :
      StopsAt r path replace name spec e
  | registering {d : Dialect} {cause : DialectError} (hd : r.declared path name spec = .ok d)
      (h : r.register d replace = .error cause) : StopsAt r path replace name spec (.dialect cause)

/-- Entries one after the other, each declaring a dialect that is then registered, lead from one
registry to another. -/
inductive Loads (path : String) (replace : Bool) :
    Registry → List (Value × Value) → List Dialect → Registry → Prop where
  | none (r : Registry) : Loads path replace r [] [] r
  | next {r r' r'' : Registry} {name spec : Value} {d : Dialect} {rest : List (Value × Value)}
      {ds : List Dialect} (hd : r.declared path name spec = .ok d)
      (hregister : r.register d replace = .ok r') (hrest : Loads path replace r' rest ds r'') :
      Loads path replace r ((name, spec) :: rest) (d :: ds) r''

/-! ## One entry -/

section Entry

variable {r : Registry} {path : String} {name spec : Value} {fields : List (Value × Value)}

theorem inOrder_nil : Value.inOrder [] = .ok [] := rfl

/-- What is said about an entry once it is known to be a mapping. -/
theorem declared_of_mapping (hfields : spec.mapping? = some fields) :
    r.declared path name spec =
      (if unknownKeys fields = [] then
        (r.get (baseName fields)).mapError (.unknownBase name.text) >>= fun base =>
          match Entries.find? (.str "like_suffix") fields with
          | none => .ok { base with name := .str name.text }
          | some (.str suffix) => .ok { base with name := .str name.text, likeSuffix := suffix }
          | some _ => .error (.suffixNotText name.text)
      else
        match Value.inOrder (unknownKeys fields) with
        | .error (later, earlier) => .error (.incomparable later earlier)
        | .ok keys => .error (.unknownKeys name.text keys path)) := by
  unfold declared
  rw [hfields]
  cases hunknown : unknownKeys fields with
  | nil =>
    have hempty : (Entries.keys fields).filter (fun k => !knownKeys.contains k) = [] := hunknown
    simp only [hempty, List.isEmpty_nil, Bool.not_true, if_true]
    rfl
  | cons key keys =>
    have hcons : (Entries.keys fields).filter (fun k => !knownKeys.contains k) = key :: keys :=
      hunknown
    simp only [hcons, List.isEmpty_cons, Bool.not_false, if_true, reduceCtorEq, if_false]
    cases Value.inOrder (key :: keys) <;> rfl

/-- **An entry declares a dialect exactly when** it is a mapping without unknown keys, its base is
registered and its suffix, if it gives one, is a text. -/
theorem declared_eq_ok_iff {d : Dialect} :
    r.declared path name spec = .ok d ↔
      ∃ fields base, spec.mapping? = some fields ∧ unknownKeys fields = [] ∧
        r.get (baseName fields) = .ok base ∧ Derives name fields base d := by
  constructor
  · intro h
    cases hfields : spec.mapping? with
    | none =>
      rw [declared, hfields] at h
      cases h
    | some fields =>
      rw [declared_of_mapping hfields] at h
      split at h
      · next hknown =>
        obtain ⟨base, hbase, hd⟩ := Outcome.bind_eq_ok_iff.mp h
        refine ⟨fields, base, rfl, hknown, Outcome.mapError_eq_ok_iff.mp hbase, ?_⟩
        split at hd
        · next hsuffix =>
          cases hd
          exact .kept hsuffix
        · next suffix hsuffix =>
          cases hd
          exact .given hsuffix
        · cases hd
      · split at h <;> cases h
  · rintro ⟨fields, base, hfields, hknown, hbase, hd⟩
    rw [declared_of_mapping hfields, if_pos hknown, Outcome.mapError_eq_ok_iff.mpr hbase]
    cases hd with
    | kept hsuffix =>
      rw [hsuffix]
      rfl
    | given hsuffix =>
      rw [hsuffix]
      rfl

/-- **An entry that declares no dialect has one of the faults of entries**, and each of them keeps
it from declaring one. -/
theorem declared_eq_error_iff {e : DocumentFault} :
    r.declared path name spec = .error e ↔ EntryFault r path name spec e := by
  constructor
  · intro h
    cases hfields : spec.mapping? with
    | none =>
      rw [declared, hfields] at h
      cases h
      exact .notMapping hfields
    | some fields =>
      rw [declared_of_mapping hfields] at h
      split at h
      · next hknown =>
        rcases Outcome.bind_eq_error_iff.mp h with h | ⟨base, hbase, hd⟩
        · obtain ⟨cause, hcause, rfl⟩ := Outcome.mapError_eq_error_iff.mp h
          exact .unknownBase hfields hknown hcause
        · have hbase := Outcome.mapError_eq_ok_iff.mp hbase
          split at hd
          · cases hd
          · cases hd
          · next v hsort hsuffix =>
            cases hd
            exact .suffixNotText hfields hknown hbase hsuffix hsort
      · next hunknown =>
        split at h
        · next horder =>
          cases h
          exact .incomparable hfields horder
        · next horder =>
          cases h
          exact .unknownKeys hfields hunknown horder
  · intro h
    cases h with
    | notMapping hnone =>
      rw [declared, hnone]
      rfl
    | unknownKeys hfields hunknown horder =>
      rw [declared_of_mapping hfields, if_neg hunknown, horder]
    | incomparable hfields horder =>
      have hunknown : unknownKeys _ ≠ [] := fun hnil => by
        rw [hnil, inOrder_nil] at horder
        cases horder
      rw [declared_of_mapping hfields, if_neg hunknown, horder]
    | unknownBase hfields hknown hbase =>
      rw [declared_of_mapping hfields, if_pos hknown, hbase]
      rfl
    | @suffixNotText fields base v hfields hknown hbase hsuffix hsort =>
      rw [declared_of_mapping hfields, if_pos hknown, hbase, hsuffix]
      cases v with
      | str suffix => exact absurd rfl (hsort suffix)
      | null | bool | int | float | bytes | list | mapping => rfl

/-- The text of the name of what an entry declares is that of the entry's name. -/
theorem Derives.name_eq {base d : Dialect} (h : Derives name fields base d) :
    d.name = .str name.text := by
  cases h <;> rfl

end Entry

/-! ## All entries -/

section Loading

variable {r r' : Registry} {path : String} {replace : Bool} {entries : List (Value × Value)}
  {ds : List Dialect} {d : Dialect}

theorem loadEntries_eq_of_loads (h : Loads path replace r entries ds r') :
    r.loadEntries path replace entries = ⟨r', ds, none⟩ := by
  induction h with
  | none r => rfl
  | next hd hregister _ ih =>
    rw [loadEntries, hd]
    simp only [hregister, ih]

/-- A document is gone through to its end when each entry can be carried out after those before. -/
theorem loadEntries_eq_none_iff :
    r.loadEntries path replace entries = ⟨r', ds, none⟩ ↔ Loads path replace r entries ds r' := by
  refine ⟨fun h => ?_, loadEntries_eq_of_loads⟩
  induction entries generalizing r ds with
  | nil =>
    cases h
    exact .none _
  | cons entry rest ih =>
    obtain ⟨name, spec⟩ := entry
    rw [loadEntries] at h
    cases hd : r.declared path name spec with
    | error e =>
      rw [hd] at h
      cases h
    | ok d =>
      simp only [hd] at h
      cases hregister : r.register d replace with
      | error e =>
        rw [hregister] at h
        cases h
      | ok next =>
        simp only [hregister] at h
        cases hrest : next.loadEntries path replace rest with
        | mk last others fault =>
          rw [hrest] at h
          cases h
          exact .next hd hregister (ih hrest)

/-- **A loading that ends with a fault has carried out the entries before one of them**, and there
the fault arose. -/
theorem loadEntries_eq_some_iff {e : DocumentFault} :
    r.loadEntries path replace entries = ⟨r', ds, some e⟩ ↔
      ∃ before name spec rest, entries = before ++ (name, spec) :: rest ∧
        Loads path replace r before ds r' ∧ StopsAt r' path replace name spec e := by
  constructor
  · intro h
    induction entries generalizing r ds with
    | nil => cases h
    | cons entry rest ih =>
      obtain ⟨name, spec⟩ := entry
      rw [loadEntries] at h
      cases hd : r.declared path name spec with
      | error cause =>
        rw [hd] at h
        cases h
        exact ⟨[], name, spec, rest, rfl, .none _, .declaring (declared_eq_error_iff.mp hd)⟩
      | ok d =>
        simp only [hd] at h
        cases hregister : r.register d replace with
        | error cause =>
          rw [hregister] at h
          cases h
          exact ⟨[], name, spec, rest, rfl, .none _, .registering hd hregister⟩
        | ok next =>
          simp only [hregister] at h
          cases hrest : next.loadEntries path replace rest with
          | mk last others fault =>
            rw [hrest] at h
            cases h
            obtain ⟨before, name', spec', rest', rfl, hloads, hstops⟩ := ih hrest
            exact ⟨(name, spec) :: before, name', spec', rest', rfl,
              .next hd hregister hloads, hstops⟩
  · rintro ⟨before, name, spec, rest, rfl, hloads, hstops⟩
    induction hloads with
    | none r =>
      cases hstops with
      | declaring hfault =>
        rw [List.nil_append, loadEntries, declared_eq_error_iff.mpr hfault]
      | registering hd hregister =>
        rw [List.nil_append, loadEntries, hd]
        simp only [hregister]
    | next hd hregister _ ih =>
      rw [List.cons_append, loadEntries, hd]
      simp only [hregister, ih hstops]

/-- A mapping is loaded entry by entry, the empty one too. -/
theorem load_mapping (r : Registry) (path : String) (replace : Bool)
    (entries : List (Value × Value)) :
    r.load path (some (.mapping entries)) replace = r.loadEntries path replace entries := by
  cases entries <;> rfl

/-- A document is loaded without a fault when it is a mapping whose entries can all be carried
out. -/
theorem load_eq_none_iff {v : Value} :
    r.load path (some v) replace = ⟨r', ds, none⟩ ↔
      ∃ entries, v.mapping? = some entries ∧ Loads path replace r entries ds r' := by
  rw [load]
  cases hentries : v.mapping? with
  | none => simp
  | some entries => simp [loadEntries_eq_none_iff]

/-- A fault is that of a document which is not there or is no mapping, or one of its entries has
it, and the entries before that one have been carried out. -/
theorem load_eq_some_iff {document : Option Value} {fault : DocumentFault} :
    r.load path document replace = ⟨r', ds, some fault⟩ ↔
      (document = none ∧ r' = r ∧ ds = [] ∧ fault = .dialectsNotFound path) ∨
      (∃ v, document = some v ∧ v.mapping? = none ∧ r' = r ∧ ds = [] ∧
        fault = .dialectsNotMapping path) ∨
      ∃ v before name spec rest, document = some v ∧
        v.mapping? = some (before ++ (name, spec) :: rest) ∧ Loads path replace r before ds r' ∧
        StopsAt r' path replace name spec fault := by
  cases document with
  | none => simp [load, eq_comm]
  | some v =>
    cases hentries : v.mapping? with
    | none => simp [load, hentries, eq_comm]
    | some entries =>
      have hload : r.load path (some v) replace = r.loadEntries path replace entries := by
        rw [load, hentries]
      rw [hload, loadEntries_eq_some_iff]
      constructor
      · rintro ⟨before, name, spec, rest, rfl, hloads, hstops⟩
        exact Or.inr (Or.inr ⟨v, before, name, spec, rest, rfl, hentries, hloads, hstops⟩)
      · rintro (⟨hnone, -⟩ | ⟨w, hw, hnone, -⟩ |
          ⟨w, before, name, spec, rest, hw, hsplit, hloads, hstops⟩)
        · cases hnone
        · cases hw
          rw [hentries] at hnone
          cases hnone
        · cases hw
          rw [hentries] at hsplit
          exact ⟨before, name, spec, rest, Option.some.inj hsplit, hloads, hstops⟩

/-- A loading carries out the first entries of its document, all of them if it has no fault. -/
theorem loads_load (r : Registry) (path : String) (document : Option Value) (replace : Bool) :
    ∃ carried rest, entriesOf document = carried ++ rest ∧
      ((r.load path document replace).fault = none → rest = []) ∧
      Loads path replace r carried (r.load path document replace).dialects
        (r.load path document replace).registry := by
  cases hload : r.load path document replace with
  | mk r' ds fault =>
    cases fault with
    | none =>
      cases document with
      | none => cases hload
      | some v =>
        obtain ⟨entries, hentries, hloads⟩ := load_eq_none_iff.mp hload
        refine ⟨entries, [], ?_, fun _ => rfl, hloads⟩
        rw [entriesOf, Option.bind_some, hentries, Option.getD_some, List.append_nil]
    | some fault =>
      have hfault : (⟨r', ds, some fault⟩ : Loading).fault ≠ none := Option.some_ne_none fault
      rcases load_eq_some_iff.mp hload with ⟨-, rfl, rfl, -⟩ | ⟨-, -, -, rfl, rfl, -⟩ |
        ⟨v, before, name, spec, rest, rfl, hentries, hloads, -⟩
      · exact ⟨[], _, rfl, fun hnone => absurd hnone hfault, .none _⟩
      · exact ⟨[], _, rfl, fun hnone => absurd hnone hfault, .none _⟩
      · refine ⟨before, (name, spec) :: rest, ?_, fun hnone => absurd hnone hfault, hloads⟩
        rw [entriesOf, Option.bind_some, hentries, Option.getD_some]

/-- Each dialect that was made has its entry, and those before it were made of the entries before
that one. -/
theorem Loads.split {made rest : List Dialect}
    (h : Loads path replace r entries (made ++ d :: rest) r') :
    ∃ before name spec after now next, entries = before ++ (name, spec) :: after ∧
      Loads path replace r before made now ∧ now.declared path name spec = .ok d ∧
      now.register d replace = .ok next := by
  induction made generalizing r entries with
  | nil =>
    cases h with
    | @next _ next _ name spec _ after _ hd hregister hrest =>
      exact ⟨[], name, spec, after, r, next, rfl, .none r, hd, hregister⟩
  | cons first made ih =>
    cases h with
    | @next _ second _ name spec _ others _ hd hregister hrest =>
      obtain ⟨before, name', spec', after, now, next, rfl, hbefore, hlast⟩ := ih hrest
      exact ⟨(name, spec) :: before, name', spec', after, now, next, rfl,
        .next hd hregister hbefore, hlast⟩

theorem Loads.length_eq (h : Loads path replace r entries ds r') :
    ds.length = entries.length := by
  induction h with
  | none r => rfl
  | next _ _ _ ih => rw [List.length_cons, List.length_cons, ih]

theorem Registers.eq_of_nil (h : Registers replace r [] r') : r' = r := by
  cases h
  rfl

/-- **Registering stores the dialects under their keys, one after the other**, and does nothing
else. -/
theorem Registers.entries_eq (h : Registers replace r ds r') :
    r'.entries = Entries.putAll (ds.map fun d => (key d.nameText, d)) r.entries := by
  induction h with
  | none r => rfl
  | @next r r' r'' d ds hregister _ ih =>
    obtain ⟨name, hname, -, -, rfl⟩ := register_eq_ok_iff.mp hregister
    rw [ih, List.map_cons, Dialect.nameText, hname, Value.text]
    rfl

/-- Under a key that none of them has, the registry answers what it did before. -/
theorem Registers.find?_of_forall_ne (h : Registers replace r ds r') {k : String}
    (hk : ∀ d ∈ ds, key d.nameText ≠ k) :
    Entries.find? k r'.entries = Entries.find? k r.entries := by
  have hnone : Entries.find? k (ds.map fun d => (key d.nameText, d)).reverse = .none := by
    rw [← Option.not_isSome_iff_eq_none, Entries.find?_isSome_iff, Entries.keys]
    simp only [List.map_reverse, List.map_map, List.mem_reverse, List.mem_map, not_exists, not_and]
    exact hk
  rw [h.entries_eq, Entries.find?_putAll, hnone, Option.none_or]

end Loading

end Registry
end SqlTemplate
