import SqlTemplate.Proofs.LoadedEntries

/-!
# What a loading that fails leaves

An entry may be based on the one above it, so an entry is registered before the next one is looked
at, and nothing is ever taken out of a registry. It follows that a loading is not all or nothing:
**what was registered before a fault stays**, and with leave to replace this may be another dialect
under a name that was taken, even one of those that are always there.

What can be relied on instead is that no entry is carried out by halves. A loading with a fault
leaves what the document cut off before the faulty entry would leave, which has no fault; and no
loading touches any name but those of the dialects that it registered.
-/

set_option autoImplicit false

namespace SqlTemplate
namespace Registry

/-- **A loading goes up to the first faulty entry and no further.** The registry afterwards is the
one before with the dialects that the loading made stored under the lower-case forms of their names,
in order; so it is the one before where none was made, and any other name stands for what it stood
for. If there is a fault, the document is not there or is no mapping and nothing was made, or one of
its entries has the fault, and what was made is what loading only the entries before that one makes,
without a fault. -/
theorem load_up_to_fault (r : Registry) (path : String) (document : Option Value)
    (replace : Bool) :
    let loading := r.load path document replace
    loading.registry.entries =
      Entries.putAll (loading.dialects.map fun d => (Text.lowerString d.nameText, d)) r.entries ∧
    (loading.dialects = [] → loading.registry = r) ∧
    (∀ k, (∀ d ∈ loading.dialects, Text.lowerString d.nameText ≠ k) →
      Entries.find? k loading.registry.entries = Entries.find? k r.entries) ∧
    ∀ fault, loading.fault = some fault →
      (loading.dialects = [] ∧ ∀ v, document = some v → v.mapping? = none) ∨
      ∃ v before name spec rest, document = some v ∧
        v.mapping? = some (before ++ (name, spec) :: rest) ∧
        r.load path (some (.mapping before)) replace =
          ⟨loading.registry, loading.dialects, none⟩ ∧
        loading.dialects.length = before.length ∧
        StopsAt loading.registry path replace name spec fault := by
  intro loading
  have hregisters : Registers replace r loading.dialects loading.registry :=
    registers_load r path document replace
  refine ⟨hregisters.entries_eq, fun hnone => ?_, fun k hk => hregisters.find?_of_forall_ne hk,
    fun fault hfault => ?_⟩
  · rw [hnone] at hregisters
    exact hregisters.eq_of_nil
  · have hload : r.load path document replace =
        ⟨loading.registry, loading.dialects, some fault⟩ := by rw [← hfault]
    rcases load_eq_some_iff.mp hload with ⟨rfl, -, hnone, -⟩ | ⟨v, rfl, hv, -, hnone, -⟩ |
      ⟨v, before, name, spec, rest, hv, hentries, hloads, hstops⟩
    · exact Or.inl ⟨hnone, fun v hv => by cases hv⟩
    · exact Or.inl ⟨hnone, fun w hw => by rw [← Option.some.inj hw, hv]⟩
    · refine Or.inr ⟨v, before, name, spec, rest, hv, hentries, ?_, hloads.length_eq, hstops⟩
      rw [load_mapping, loadEntries_eq_of_loads hloads]

/-- A document whose first entry puts another dialect in the place of the default one, and whose
second names a base that there is not. -/
def halfLoaded : Value := .mapping [
  (.str "Default", .mapping [(.str "base", .str "mysql")]),
  (.str "other", .mapping [(.str "base", .str "missing")])]

/-- The first entry has taken effect when the second one turns out to be faulty. -/
theorem halfLoaded_made :
    (builtin.load "dialects.yaml" (some halfLoaded) true).fault.isSome = true ∧
      (builtin.load "dialects.yaml" (some halfLoaded) true).dialects.map
        (fun d => (Text.lowerString d.nameText, d.style)) = [("default", .mySql)] ∧
      ((builtin.load "dialects.yaml" (some halfLoaded) true).registry.find? "default").map
        Dialect.style = some .mySql := by
  decide +kernel

/-- A loading with a fault can leave another registry than it found, and another dialect under a
name that was always there. -/
theorem load_not_all_or_nothing :
    builtin.Reached ∧
      (builtin.load "dialects.yaml" (some halfLoaded) true).fault.isSome = true ∧
      (builtin.load "dialects.yaml" (some halfLoaded) true).registry ≠ builtin ∧
      (builtin.find? "default").map Dialect.style = some .offsetFetch ∧
      ((builtin.load "dialects.yaml" (some halfLoaded) true).registry.find? "default").map
        Dialect.style = some .mySql := by
  obtain ⟨hfault, -, hafter⟩ := halfLoaded_made
  have hbefore : (builtin.find? "default").map Dialect.style = some .offsetFetch := by
    decide +kernel
  refine ⟨⟨[], rfl⟩, hfault, fun hsame => ?_, hbefore, hafter⟩
  rw [hsame, hbefore] at hafter
  cases hafter

/-- What is left is what the first entry alone leaves, and no other name stands for anything
else. -/
theorem load_up_to_fault_default :
    let loading := builtin.load "dialects.yaml" (some halfLoaded) true
    (∃ fault, loading.fault = some fault ∧
      ((loading.dialects = [] ∧ ∀ v, some halfLoaded = some v → v.mapping? = none) ∨
        ∃ v before name spec rest, some halfLoaded = some v ∧
          v.mapping? = some (before ++ (name, spec) :: rest) ∧
          builtin.load "dialects.yaml" (some (.mapping before)) true =
            ⟨loading.registry, loading.dialects, none⟩ ∧
          loading.dialects.length = before.length ∧
          StopsAt loading.registry "dialects.yaml" true name spec fault)) ∧
      loading.dialects.length = 1 ∧
      (∀ d ∈ loading.dialects, Text.lowerString d.nameText ≠ "mysql") ∧
      Entries.find? "mysql" loading.registry.entries = Entries.find? "mysql" builtin.entries := by
  intro loading
  obtain ⟨hfault, hmade, -⟩ := halfLoaded_made
  obtain ⟨-, -, hframe, hfaults⟩ :=
    load_up_to_fault builtin "dialects.yaml" (some halfLoaded) true
  obtain ⟨fault, hfault⟩ := Option.isSome_iff_exists.mp hfault
  have hlength := congrArg List.length hmade
  rw [List.length_map] at hlength
  have hnames : ∀ d ∈ loading.dialects, Text.lowerString d.nameText ≠ "mysql" := by
    intro d hd heq
    have hmem : (Text.lowerString d.nameText, d.style) ∈ [("default", PagingStyle.mySql)] := by
      rw [← hmade]
      exact List.mem_map_of_mem hd
    rw [heq] at hmem
    simp at hmem
  exact ⟨⟨fault, hfault, hfaults fault hfault⟩, hlength, hnames, hframe "mysql" hnames⟩

end Registry
end SqlTemplate
