import SqlTemplate.Dialect.Document
import SqlTemplate.Proofs.LowerCase
import SqlTemplate.Proofs.Override

/-!
# The registry over a whole run

Whatever an application does with the registry, it does by calls, and a call changes it in one way
only: **it registers dialects one after the other**. A loading that is cut short by a fault has
registered some of them and stays a call like any other. So what registering preserves holds of
every registry there can be: each dialect stands under the lower-case form of its own name, no key
stands twice, and none is lost.

Two spellings of a name are one name here, and the entries of a document may be spellings of each
other. Nothing has to be said about that separately, because an entry is read with the registry that
the entries before it have left.
-/

set_option autoImplicit false

namespace SqlTemplate
namespace Registry

/-- A call. The document of a loading may be missing, or be no document at all. -/
inductive Operation where
  | register (d : Dialect) (replace : Bool)
  | load (path : String) (document : Except DocumentFault (Option Value)) (replace : Bool)
  | get (name : Option String)
  | available

/-- Whether a call may put another dialect in the place of one that is there. -/
def Operation.replaces : Operation → Bool
  | .register _ replace => replace
  | .load _ _ replace => replace
  | .get _ => false
  | .available => false

/-- The registry after a call, whether the call succeeded or not. -/
def after (r : Registry) : Operation → Registry
  | .register d replace =>
    match r.register d replace with
    | .ok next => next
    | .error _ => r
  | .load path document replace =>
    match document with
    | .ok document => (r.load path document replace).registry
    | .error _ => r
  | .get _ => r
  | .available => r

/-- The registry after calls, one after the other. -/
def run (r : Registry) (calls : List Operation) : Registry := calls.foldl after r

/-- A registry that calls lead to from the one there is at first. -/
def Reached (r : Registry) : Prop := ∃ calls, run builtin calls = r

/-! ## What a call does -/

/-- Registering dialects one after the other, each with success, leads from one registry to
another. -/
inductive Registers (replace : Bool) : Registry → List Dialect → Registry → Prop where
  | none (r : Registry) : Registers replace r [] r
  | next {r r' r'' : Registry} {d : Dialect} {ds : List Dialect} :
      r.register d replace = .ok r' → Registers replace r' ds r'' →
        Registers replace r (d :: ds) r''

variable {r r' : Registry} {d : Dialect} {replace : Bool}

theorem register_eq_ok_iff :
    r.register d replace = .ok r' ↔
      ∃ name, d.name = .str name ∧ name ≠ "" ∧
        ((r.find? name).isSome = true → replace = true) ∧
        r' = ⟨Entries.put (key name) d r.entries⟩ := by
  constructor
  · intro h
    rw [register] at h
    split at h
    · next name hname =>
      split at h
      · cases h
      · next hne =>
        split at h
        · cases h
        · next hfree =>
          cases h
          refine ⟨name, hname, ?_, ?_, rfl⟩
          · simpa using hne
          · intro htaken
            simpa [htaken] using hfree
    · cases h
  · rintro ⟨name, hname, hne, hfree, rfl⟩
    have htaken : ((r.find? name).isSome && !replace) = false := by
      cases htaken : (r.find? name).isSome with
      | false => rfl
      | true => simp [hfree htaken]
    simp [register, hname, hne, htaken]

theorem registers_loadEntries (r : Registry) (path : String) (replace : Bool)
    (entries : List (Value × Value)) :
    Registers replace r (r.loadEntries path replace entries).dialects
      (r.loadEntries path replace entries).registry := by
  induction entries generalizing r with
  | nil => exact .none r
  | cons entry rest ih =>
    obtain ⟨name, spec⟩ := entry
    rw [loadEntries]
    cases r.declared path name spec with
    | error e => exact .none r
    | ok d =>
      cases hregister : r.register d replace with
      | error e => simpa only [hregister] using .none r
      | ok next => simpa only [hregister] using .next hregister (ih next)

/-- **A loading has registered the dialects it made, and nothing else**, also where a fault ended
it. -/
theorem registers_load (r : Registry) (path : String) (document : Option Value) (replace : Bool) :
    Registers replace r (r.load path document replace).dialects
      (r.load path document replace).registry := by
  cases document with
  | none => exact .none r
  | some v =>
    rw [load]
    cases v.mapping? with
    | none => exact .none r
    | some entries => exact registers_loadEntries r path replace entries

/-- Every call registers some dialects, with the leave to replace that it was given. -/
theorem exists_registers_after (r : Registry) (call : Operation) :
    ∃ ds, Registers call.replaces r ds (r.after call) := by
  cases call with
  | register d replace =>
    cases h : r.register d replace with
    | error e =>
      refine ⟨[], ?_⟩
      simpa only [after, h] using .none r
    | ok next =>
      refine ⟨[d], ?_⟩
      simpa only [after, h] using .next h (.none next)
  | load path document replace =>
    cases document with
    | error e => exact ⟨[], .none r⟩
    | ok document => exact ⟨_, registers_load r path document replace⟩
  | get name => exact ⟨[], .none r⟩
  | available => exact ⟨[], .none r⟩

/-! ## What registering preserves -/

/-- Each dialect stands under the lower-case form of its own name, and no key stands twice. -/
structure Keyed (r : Registry) : Prop where
  named : ∀ k d, (k, d) ∈ r.entries → ∃ name, d.name = .str name ∧ name ≠ "" ∧ k = key name
  nodup : (Entries.keys r.entries).Nodup

theorem keys_builtin : Entries.keys builtin.entries =
    ["default", "hsql", "mysql", "postgres", "oracle", "sqlserver2008", "vertica"] := by
  decide +kernel

theorem keyed_builtin : builtin.Keyed where
  named k d h := by
    obtain ⟨d, hd, heq⟩ := List.mem_map.1 h
    cases heq
    suffices hname : ∃ name, d.name = .str name ∧ name ≠ "" by
      obtain ⟨name, hname, hne⟩ := hname
      refine ⟨name, hname, hne, ?_⟩
      rw [Dialect.nameText, hname, Value.text]
    simp only [Dialect.builtins, List.mem_cons, List.not_mem_nil, or_false] at hd
    rcases hd with rfl | rfl | rfl | rfl | rfl | rfl | rfl <;> exact ⟨_, rfl, by decide⟩
  nodup := by
    rw [keys_builtin]
    decide

theorem Keyed.register (hr : r.Keyed) (h : r.register d replace = .ok r') : r'.Keyed := by
  obtain ⟨name, hname, hne, -, rfl⟩ := register_eq_ok_iff.1 h
  have hnodup := Entries.nodup_keys_put (key name) d hr.nodup
  refine ⟨fun k e he => ?_, hnodup⟩
  have hfind := (Entries.find?_eq_some_iff_of_nodup hnodup).2 he
  by_cases hk : k = key name
  · subst hk
    rw [Entries.find?_put_self] at hfind
    cases hfind
    exact ⟨name, hname, hne, rfl⟩
  · rw [Entries.find?_put_of_ne hk] at hfind
    exact hr.named k e (Entries.mem_of_find? hfind)

theorem keys_subset_of_register (h : r.register d replace = .ok r') :
    Entries.keys r.entries ⊆ Entries.keys r'.entries := by
  obtain ⟨name, -, -, -, rfl⟩ := register_eq_ok_iff.1 h
  intro k hk
  rw [Entries.keys_put]
  split
  · exact hk
  · exact List.mem_append_left _ hk

theorem find?_register_of_ne {name x : String} (hname : d.name = .str name)
    (h : r.register d replace = .ok r') (hx : key x ≠ key name) : r'.find? x = r.find? x := by
  obtain ⟨name', hname', -, -, rfl⟩ := register_eq_ok_iff.1 h
  obtain rfl : name' = name := Value.str.inj (hname'.symm.trans hname)
  exact Entries.find?_put_of_ne hx d r.entries

/-- Without leave to replace, a name that is taken keeps its dialect. -/
theorem find?_register_of_taken {x : String} {e : Dialect} (h : r.register d false = .ok r')
    (hx : r.find? x = some e) : r'.find? x = some e := by
  obtain ⟨name, hname, -, hfree, -⟩ := register_eq_ok_iff.1 h
  rw [find?_register_of_ne hname h, hx]
  -- what was registered was free, and so is not what is taken
  intro heq
  have htaken : (r.find? name).isSome = true := by
    rw [find?, ← heq, ← find?, hx]
    rfl
  exact Bool.false_ne_true (hfree htaken)

theorem Registers.keyed {ds : List Dialect} (h : Registers replace r ds r') (hr : r.Keyed) :
    r'.Keyed := by
  induction h with
  | none => exact hr
  | next hregister _ ih => exact ih (hr.register hregister)

theorem Registers.keys_subset {ds : List Dialect} (h : Registers replace r ds r') :
    Entries.keys r.entries ⊆ Entries.keys r'.entries := by
  induction h with
  | none => exact List.Subset.refl _
  | next hregister _ ih => exact List.Subset.trans (keys_subset_of_register hregister) ih

theorem Registers.find?_of_taken {ds : List Dialect} (h : Registers false r ds r') {x : String}
    {e : Dialect} (hx : r.find? x = some e) : r'.find? x = some e := by
  induction h with
  | none => exact hx
  | next hregister _ ih => exact ih (find?_register_of_taken hregister hx)

/-! ## What holds after a run -/

theorem Keyed.run (hr : r.Keyed) (calls : List Operation) : (r.run calls).Keyed := by
  induction calls generalizing r with
  | nil => exact hr
  | cons call rest ih =>
    obtain ⟨ds, hds⟩ := exists_registers_after r call
    exact ih (hds.keyed hr)

theorem keys_subset_run (r : Registry) (calls : List Operation) :
    Entries.keys r.entries ⊆ Entries.keys (r.run calls).entries := by
  induction calls generalizing r with
  | nil => exact List.Subset.refl _
  | cons call rest ih =>
    obtain ⟨ds, hds⟩ := exists_registers_after r call
    exact List.Subset.trans hds.keys_subset (ih (r.after call))

theorem Reached.keyed (h : r.Reached) : r.Keyed := by
  obtain ⟨calls, rfl⟩ := h
  exact keyed_builtin.run calls

/-! ## What is answered -/

theorem get_eq_ok_iff {name : String} : r.get name = .ok d ↔ r.find? name = some d := by
  rw [get]
  cases r.find? name <;> simp

theorem getOption_eq_ok_iff {name : Option String} :
    r.getOption name = .ok d ↔ r.find? (name.getD "") = some d := by
  cases name with
  | some name => exact get_eq_ok_iff
  | none =>
    rw [getOption, Option.getD_none]
    cases r.find? "" <;> simp

theorem find?_congr {x y : String} (h : key x = key y) : r.find? x = r.find? y := by
  rw [find?, h, ← find?]

theorem exists_get_iff {name : String} :
    (∃ d, r.get name = .ok d) ↔ key name ∈ Entries.keys r.entries := by
  simp only [get_eq_ok_iff, ← Option.isSome_iff_exists]
  exact Entries.find?_isSome_iff

theorem mem_available_iff {k : String} : k ∈ r.available ↔ k ∈ Entries.keys r.entries :=
  (Order.sortBy_perm _ _).mem_iff

theorem Keyed.key_eq_self (hr : r.Keyed) {k : String} (hk : k ∈ Entries.keys r.entries) :
    key k = k := by
  obtain ⟨⟨_, d⟩, hentry, rfl⟩ := List.mem_map.1 hk
  obtain ⟨name, -, -, rfl⟩ := hr.named _ d hentry
  exact Text.lowerString_lowerString name

theorem Keyed.available_increasing (hr : r.Keyed) : r.available.Pairwise (· < ·) :=
  Order.pairwise_lt_sortBy (by simpa using hr.nodup)

/-- **The registry keeps names and dialects in step, whatever was called before.** Each dialect is
under the lower-case form of its name; no call loses a name, and one without leave to replace keeps
what each name stands for; what is listed is what is there, and all that is there can be got. -/
theorem Reached.lawful (h : r.Reached) :
    (∀ k d, (k, d) ∈ r.entries →
      ∃ name, d.name = .str name ∧ name ≠ "" ∧ k = Text.lowerString name) ∧
    (∀ calls, Entries.keys r.entries ⊆ Entries.keys (r.run calls).entries) ∧
    (∀ name ∈ ["default", "hsql", "mysql", "postgres", "oracle", "sqlserver2008", "vertica"],
      ∃ d, r.get name = .ok d) ∧
    r.available.Pairwise (· < ·) ∧
    (∀ k, k ∈ r.available ↔ k ∈ Entries.keys r.entries) ∧
    (∀ k ∈ r.available, ∃ d, r.get k = .ok d) ∧
    (∀ x y : Option String, Text.lowerString (x.getD "") = Text.lowerString (y.getD "") →
      ∀ d, r.getOption x = .ok d ↔ r.getOption y = .ok d) ∧
    (∀ call : Operation, call.replaces = false →
      ∀ x d, r.get x = .ok d → (r.after call).get x = .ok d) ∧
    (∀ d replace e, r.register d replace = .error e → r.after (.register d replace) = r) ∧
    (∀ d replace next, r.register d replace = .ok next →
      r.after (.register d replace) = next ∧
      ∃ name, d.name = .str name ∧
        (∀ x, Text.lowerString x = Text.lowerString name → next.get x = .ok d) ∧
        (∀ x, Text.lowerString x ≠ Text.lowerString name →
          ∀ e, next.get x = .ok e ↔ r.get x = .ok e)) := by
  have hkeyed := h.keyed
  refine ⟨hkeyed.named, keys_subset_run r, fun name hname => ?_, hkeyed.available_increasing,
    fun k => mem_available_iff, fun k hk => ?_, fun x y hxy d => ?_, fun call hcall x d hx => ?_,
    fun d replace e herror => ?_, fun d replace next hok => ⟨?_, ?_⟩⟩
  · obtain ⟨calls, rfl⟩ := h
    rw [← keys_builtin] at hname
    rw [exists_get_iff, keyed_builtin.key_eq_self hname]
    exact keys_subset_run builtin calls hname
  · -- what is listed is asked for by its lower-case form, which is itself
    have hk := mem_available_iff.1 hk
    rw [exists_get_iff, hkeyed.key_eq_self hk]
    exact hk
  · rw [getOption_eq_ok_iff, getOption_eq_ok_iff, find?_congr hxy]
  · obtain ⟨ds, hds⟩ := exists_registers_after r call
    rw [hcall] at hds
    exact get_eq_ok_iff.2 (hds.find?_of_taken (get_eq_ok_iff.1 hx))
  · simp only [after, herror]
  · simp only [after, hok]
  · obtain ⟨name, hname, -⟩ := register_eq_ok_iff.1 hok
    refine ⟨name, hname, fun x hx => ?_, fun x hx e => ?_⟩
    · rw [get_eq_ok_iff, find?_congr hx]
      exact find?_register hname hok
    · rw [get_eq_ok_iff, get_eq_ok_iff, find?_register_of_ne hname hok hx]

/-- A dialect is registered, and then a document is loaded that builds another one on it and whose
second entry is a second spelling of the first. -/
def twinCalls : List Operation := [
  .register ⟨.str "MyDB", "", .mySql⟩ false,
  .get none,
  .load "dialects.yml" (.ok (some (.mapping [
    (.str "Other", .mapping [(.str "base", .str "MYDB")]), (.str "OTHER", .null)]))) false]

/-- The second spelling ends the loading. What the first one registered stays, under both. -/
theorem Reached.lawful_twins :
    (run builtin twinCalls).Reached ∧
      (run builtin twinCalls).available = ["default", "hsql", "mydb", "mysql", "oracle", "other",
        "postgres", "sqlserver2008", "vertica"] ∧
      (∃ d, (run builtin twinCalls).get "other" = .ok d) ∧
      ∀ d, (run builtin twinCalls).get "other" = .ok d ↔
        (run builtin twinCalls).get "OTHER" = .ok d := by
  have hreached : (run builtin twinCalls).Reached := ⟨twinCalls, rfl⟩
  have havailable : (run builtin twinCalls).available = ["default", "hsql", "mydb", "mysql",
      "oracle", "other", "postgres", "sqlserver2008", "vertica"] := by
    decide +kernel
  obtain ⟨-, -, -, -, -, hlisted, hcaseless, -⟩ := Reached.lawful hreached
  have hsame : Text.lowerString "other" = Text.lowerString "OTHER" := by decide +kernel
  refine ⟨hreached, havailable, hlisted "other" ?_, hcaseless (some "other") (some "OTHER") hsame⟩
  rw [havailable]
  decide

end Registry
end SqlTemplate
