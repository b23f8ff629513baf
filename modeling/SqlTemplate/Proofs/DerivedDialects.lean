import SqlTemplate.Proofs.Agreement
import SqlTemplate.Proofs.FaultOrigin
import SqlTemplate.Proofs.LoadedEntries

/-!
# Dialects made of other dialects

An entry of a document makes a dialect of another one, its base. It gives the new one a name, and
perhaps a suffix; of which kind the new one is, it cannot say. Rendering asks a dialect for its
suffix and for its pages, and the name comes into this only where a fault is reported. Hence **a
derived dialect renders like its base**, with the suffix of its own if it has one.

What the base of an entry is can only be said of the moment when the entry is read. The registry
changes under the loop that goes through the document, and a name may later stand for another
dialect than the one that was derived from. So ancestry is a matter of what was called: `Derivation`
relates the dialects that were made in the course of calls to their bases, and is not to be found in
the registry that the calls leave. Along its chains the kind never changes, and every one that leads
to a dialect of the registry can be followed back to one that was there at first or was registered
as it is.
-/

set_option autoImplicit false

namespace SqlTemplate

/-! ## What rendering asks of a dialect -/

/-- What a dialect cannot do, without the name of the dialect. -/
def DialectError.withoutName : DialectError → DialectError
  | .noPagingClause _ => .noPagingClause ""
  | .notCuttable _ => .notCuttable ""
  | e => e

/-- A fault without the name of the dialect that its message gives. -/
def RenderError.withoutDialect : RenderError → RenderError
  | .dialect e => .dialect e.withoutName
  | e => e

/-- Two runs give the same, or faults that differ at most in which dialect they name. -/
def SameKind {α : Type} (x y : Except RenderError α) : Prop :=
  x.mapError RenderError.withoutDialect = y.mapError RenderError.withoutDialect

theorem compatible_sameKind : Compatible SameKind := compatible_mapError _

theorem sameKind_dialect {α : Type} {x y : Except DialectError α}
    (h : x.mapError DialectError.withoutName = y.mapError DialectError.withoutName) :
    SameKind (x.mapError .dialect) (y.mapError .dialect) := by
  have herase : RenderError.withoutDialect ∘ RenderError.dialect =
      RenderError.dialect ∘ DialectError.withoutName := rfl
  rw [SameKind, Outcome.mapError_mapError, Outcome.mapError_mapError, herase,
    ← Outcome.mapError_mapError, ← Outcome.mapError_mapError, h]

namespace Dialect

/-- A dialect asks for pages as another one does. -/
structure PagesLike (d e : Dialect) : Prop where
  clause : ∀ offset fetch, (d.pagingClause offset fetch).mapError DialectError.withoutName =
    (e.pagingClause offset fetch).mapError DialectError.withoutName
  query : ∀ query offset fetch,
    (d.addPaging query offset fetch).mapError DialectError.withoutName =
      (e.addPaging query offset fetch).mapError DialectError.withoutName

/-- Whatever is rendered, with whatever parameters, two dialects come to the same SQL or to the same
kind of fault. -/
def RendersLike (d e : Dialect) : Prop :=
  ∀ (table : Table) (p : Parameters) (raw : Bool) (name : String),
    SameKind (table.render ⟨p, d, raw⟩ name) (table.render ⟨p, e, raw⟩ name)

variable {d e : Dialect}

/-- How a dialect asks for pages is settled by its kind. -/
theorem pagesLike_of_style (h : d.style = e.style) : d.PagesLike e := by
  have hclause : ∀ offset fetch, (d.pagingClause offset fetch).mapError DialectError.withoutName =
      (e.pagingClause offset fetch).mapError DialectError.withoutName := by
    intro offset fetch
    cases offset <;> cases fetch <;> simp only [pagingClause, h] <;> cases e.style <;> rfl
  refine ⟨hclause, fun query offset fetch => ?_⟩
  unfold addPaging
  rw [h]
  cases e.style with
  | rowNumber => cases offset <;> cases fetch <;> first | rfl | (dsimp only; split <;> rfl)
  | offsetFetch | limitOffset | mySql => simp only [Outcome.mapError_map, hclause]

/-- Settings that differ in the dialect alone agree at every node, if the dialects are of one kind
and have the same suffix. -/
theorem agrees_of_style (hstyle : d.style = e.style) (hsuffix : d.likeSuffix = e.likeSuffix)
    (p : Parameters) (raw : Bool) (holds : Fragment → Prop) :
    Setting.Agrees SameKind holds ⟨p, d, raw⟩ ⟨p, e, raw⟩ where
  enters head _ _ := by cases head <;> rfl
  block head _ said _ := by
    cases head with
    | like v =>
      simp only [Setting.blockText, Setting.likeText, hsuffix]
      exact compatible_sameKind.refl _
    | paging offset fetch =>
      refine compatible_sameKind.bind (compatible_sameKind.refl _) fun o => ?_
      refine compatible_sameKind.bind (compatible_sameKind.refl _) fun n => ?_
      exact sameKind_dialect ((pagesLike_of_style hstyle).query _ o n)
    | named | group | filter | test => exact compatible_sameKind.refl _
  value _ _ := compatible_sameKind.refl _
  clause offset fetch rows _ := by
    rw [Setting.clauseText_eq, Setting.clauseText_eq]
    refine compatible_sameKind.bind (compatible_sameKind.refl _) fun o => ?_
    refine compatible_sameKind.bind (compatible_sameKind.refl _) fun n => ?_
    exact sameKind_dialect ((pagesLike_of_style hstyle).clause o n)

theorem rendersLike_of_style (hstyle : d.style = e.style) (hsuffix : d.likeSuffix = e.likeSuffix) :
    d.RendersLike e := fun _ p raw _ =>
  Table.render_agrees compatible_sameKind (agrees_of_style hstyle hsuffix p raw _) fun _ _ => rfl

end Dialect

namespace Registry

/-! ## Entries and their bases -/

section Entries

variable {r r' : Registry} {path : String} {replace : Bool} {entries : List (Value × Value)}
  {base d : Dialect}

theorem Derives.style_eq {name : Value} {fields : List (Value × Value)}
    (h : Derives name fields base d) : d.style = base.style := by
  cases h <;> rfl

/-- What an entry makes of its base renders like it, with the suffix that the entry gives. -/
theorem Derives.rendersLike {name : Value} {fields : List (Value × Value)}
    (h : Derives name fields base d) :
    Entries.find? (.str "like_suffix") fields = none ∧ d.RendersLike base ∨
      ∃ suffix, Entries.find? (.str "like_suffix") fields = some (.str suffix) ∧
        d.RendersLike { base with likeSuffix := suffix } := by
  cases h with
  | kept hnone => exact Or.inl ⟨hnone, Dialect.rendersLike_of_style rfl rfl⟩
  | given hsome => exact Or.inr ⟨_, hsome, Dialect.rendersLike_of_style rfl rfl⟩

/-- When entries are carried out, one of them makes a dialect of a base: of the dialect that its
base name stands for when the entries before it have been carried out. -/
inductive Makes (path : String) (replace : Bool) (r : Registry) (entries : List (Value × Value))
    (base d : Dialect) : Prop where
  | entry {before after : List (Value × Value)} {name spec : Value}
      {fields : List (Value × Value)} {made : List Dialect} {now next : Registry}
      (hentries : entries = before ++ (name, spec) :: after)
      (hbefore : Loads path replace r before made now)
      (hfields : spec.mapping? = some fields) (hknown : unknownKeys fields = [])
      (hbase : now.get (baseName fields) = .ok base) (hd : Derives name fields base d)
      (hregister : now.register d replace = .ok next)

theorem Makes.append (h : Makes path replace r entries base d) (more : List (Value × Value)) :
    Makes path replace r (entries ++ more) base d := by
  obtain ⟨rfl, hbefore, hfields, hknown, hbase, hd, hregister⟩ := h
  exact .entry (List.append_assoc _ _ _) hbefore hfields hknown hbase hd hregister

/-- What entries make after one that has been carried out, they make together with it. -/
theorem Makes.cons {name spec : Value} {first : Dialect}
    (hfirst : r.declared path name spec = .ok first) (hregister : r.register first replace = .ok r')
    (h : Makes path replace r' entries base d) :
    Makes path replace r ((name, spec) :: entries) base d := by
  obtain ⟨rfl, hbefore, hfields, hknown, hbase, hd, hnext⟩ := h
  exact .entry rfl (.next hfirst hregister hbefore) hfields hknown hbase hd hnext

end Entries

/-! ## What is handed on from base to derived dialect -/

section Every

variable {P Q : Dialect → Prop} {r r' : Registry} {path : String} {replace : Bool}
  {entries : List (Value × Value)} {ds : List Dialect} {d : Dialect}

/-- All dialects that can be got have a property. -/
def Every (P : Dialect → Prop) (r : Registry) : Prop := ∀ name d, r.get name = .ok d → P d

theorem Every.mono (h : r.Every P) (hPQ : ∀ d, P d → Q d) : r.Every Q :=
  fun name d hd => hPQ d (h name d hd)

theorem every_builtin : builtin.Every (· ∈ Dialect.builtins) := by
  intro name d h
  have hmem := Entries.mem_of_find? (get_eq_ok_iff.mp h)
  obtain ⟨e, he, heq⟩ := List.mem_map.mp hmem
  obtain rfl : e = d := congrArg Prod.snd heq
  exact he

theorem Every.register (hr : r.Every P) (hd : P d) (h : r.register d replace = .ok r') :
    r'.Every P := by
  obtain ⟨own, hown, -⟩ := register_eq_ok_iff.mp h
  intro name e he
  rw [get_eq_ok_iff] at he
  by_cases hsame : key name = key own
  · rw [find?_congr hsame, find?_register hown h] at he
    cases he
    exact hd
  · rw [find?_register_of_ne hown h hsame] at he
    exact hr name e (get_eq_ok_iff.mpr he)

/-- **What bases hand on to the dialects made of them, entries hand on to the registry.** -/
theorem Every.loads (hr : r.Every P) (h : Loads path replace r entries ds r')
    (hstep : ∀ base d, Makes path replace r entries base d → P base → P d) : r'.Every P := by
  induction h with
  | none r => exact hr
  | @next r r' r'' name spec d rest ds hd hregister _ ih =>
    obtain ⟨fields, base, hfields, hknown, hbase, hderives⟩ := declared_eq_ok_iff.mp hd
    have hmakes : Makes path replace r ((name, spec) :: rest) base d :=
      .entry rfl (.none r) hfields hknown hbase hderives hregister
    have hfirst : P d := hstep base d hmakes (hr _ base hbase)
    exact ih (hr.register hfirst hregister) fun base d hmakes =>
      hstep base d (hmakes.cons hd hregister)

end Every

/-! ## What was called -/

/-- In the course of calls, an entry of a document that one of them loaded made a dialect of a
base. -/
def Derivation (calls : List Operation) (base d : Dialect) : Prop :=
  ∃ earlier path document replace later,
    calls = earlier ++ .load path (.ok document) replace :: later ∧
      Makes path replace (run builtin earlier) (entriesOf document) base d

/-- A dialect is there at first, or one of the calls registered it as it is. -/
def Origin (calls : List Operation) (d : Dialect) : Prop :=
  d ∈ Dialect.builtins ∨ ∃ earlier replace later next,
    calls = earlier ++ .register d replace :: later ∧
      (run builtin earlier).register d replace = .ok next

/-- A dialect is the last of a chain of derivations that starts at an origin. -/
def Rooted (calls : List Operation) (d : Dialect) : Prop :=
  ∃ root, Origin calls root ∧ Relation.ReflTransGen (Derivation calls) root d

section Calls

variable {calls : List Operation} {base d root : Dialect}

theorem Derivation.append (h : Derivation calls base d) (more : List Operation) :
    Derivation (calls ++ more) base d := by
  obtain ⟨earlier, path, document, replace, later, rfl, hmakes⟩ := h
  exact ⟨earlier, path, document, replace, later ++ more, List.append_assoc _ _ _, hmakes⟩

theorem Origin.append (h : Origin calls d) (more : List Operation) :
    Origin (calls ++ more) d := by
  rcases h with hd | ⟨earlier, replace, later, next, rfl, hregister⟩
  · exact Or.inl hd
  · exact Or.inr ⟨earlier, replace, later ++ more, next, List.append_assoc _ _ _, hregister⟩

theorem Rooted.append (h : Rooted calls d) (more : List Operation) :
    Rooted (calls ++ more) d := by
  obtain ⟨root, horigin, hchain⟩ := h
  have hmore : Derivation calls ≤ Derivation (calls ++ more) := fun _ _ hstep => hstep.append more
  exact ⟨root, horigin.append more, Relation.ReflTransGen.mono hmore _ _ hchain⟩

theorem Rooted.tail (h : Rooted calls base) (hstep : Derivation calls base d) :
    Rooted calls d := by
  obtain ⟨root, horigin, hchain⟩ := h
  exact ⟨root, horigin, hchain.tail hstep⟩

/-- A call keeps all dialects of the registry rooted. -/
theorem every_rooted_after (calls : List Operation) (call : Operation)
    (h : (run builtin calls).Every (Rooted (calls ++ [call]))) :
    ((run builtin calls).after call).Every (Rooted (calls ++ [call])) := by
  cases call with
  | register d replace =>
    cases hregister : (run builtin calls).register d replace with
    | error e => simpa only [after, hregister] using h
    | ok next =>
      simp only [after, hregister]
      have horigin : Origin (calls ++ [.register d replace]) d :=
        Or.inr ⟨calls, replace, [], next, rfl, hregister⟩
      exact h.register ⟨d, horigin, .refl⟩ hregister
  | load path document replace =>
    cases document with
    | error e => exact h
    | ok document =>
      obtain ⟨carried, rest, hentries, -, hloads⟩ :=
        loads_load (run builtin calls) path document replace
      refine h.loads hloads fun base d hmakes hbase => hbase.tail ?_
      refine ⟨calls, path, document, replace, [], rfl, ?_⟩
      rw [hentries]
      exact hmakes.append rest
  | get name => exact h
  | available => exact h

/-- **Whatever was called, every dialect of the registry comes from an origin.** -/
theorem every_rooted_run (calls : List Operation) :
    (run builtin calls).Every (Rooted calls) := by
  induction calls using List.reverseRecOn with
  | nil => exact every_builtin.mono fun d hd => ⟨d, Or.inl hd, .refl⟩
  | append_singleton calls call ih =>
    rw [run, List.foldl_append]
    exact every_rooted_after calls call (ih.mono fun d hd => hd.append [call])

/-- The base of a derivation comes from an origin, too. In the registry that the calls leave it may
have been replaced. -/
theorem Derivation.rooted_base (h : Derivation calls base d) : Rooted calls base := by
  obtain ⟨earlier, path, document, replace, later, rfl, hmakes⟩ := h
  obtain ⟨hentries, hbefore, hfields, hknown, hbase, hd, hregister⟩ := hmakes
  have hstart := (every_rooted_run earlier).mono fun d hd =>
    hd.append (.load path (.ok document) replace :: later)
  refine hstart.loads hbefore (fun base d hmakes hrooted => hrooted.tail ?_) _ base hbase
  refine ⟨earlier, path, document, replace, later, rfl, ?_⟩
  rw [hentries]
  exact hmakes.append _

theorem Derivation.style_eq (h : Derivation calls base d) : d.style = base.style := by
  obtain ⟨-, -, -, -, -, -, ⟨-, -, -, -, -, hd, -⟩⟩ := h
  exact hd.style_eq

theorem style_eq_of_chain (h : Relation.ReflTransGen (Derivation calls) root d) :
    d.style = root.style := by
  induction h with
  | refl => rfl
  | tail _ hstep ih => exact hstep.style_eq.trans ih

/-- Each dialect that a call made by loading was derived in that call. -/
theorem exists_derivation {earlier later : List Operation} {path : String}
    {document : Option Value} {replace : Bool}
    (hd : d ∈ ((run builtin earlier).load path document replace).dialects) :
    ∃ base, Derivation (earlier ++ .load path (.ok document) replace :: later) base d := by
  obtain ⟨carried, rest, hentries, -, hloads⟩ :=
    loads_load (run builtin earlier) path document replace
  obtain ⟨made, others, hsplit⟩ := List.append_of_mem hd
  rw [hsplit] at hloads
  obtain ⟨before, name, spec, after, now, next, rfl, hbefore, hdeclared, hregister⟩ := hloads.split
  obtain ⟨fields, base, hfields, hknown, hbase, hderives⟩ := declared_eq_ok_iff.mp hdeclared
  refine ⟨base, earlier, path, document, replace, later, rfl, ?_⟩
  rw [hentries]
  exact (Makes.entry rfl hbefore hfields hknown hbase hderives hregister).append rest

end Calls

/-- **A derived dialect renders like its base.** A loading without a fault makes a dialect of each
entry. The base of any dialect that a loading has made is what the base name of its entry stands for
when the entries before have been loaded; all that is rendered comes to the same with both, once the
base has the suffix that the entry gives, if it gives one.

Along a chain of derivations, through as many loadings as there may be, the kind stays that of the
first dialect and so does the paging, and apart from the suffix the last one renders like the first.
Such a chain leads from a dialect that was there at first, or was registered as it is, to every
dialect of the registry and to every base of a dialect that was ever made. -/
theorem derived_renders_like_base (r : Registry) (calls : List Operation) (path : String)
    (document : Option Value) (replace : Bool) :
    ((r.load path document replace).fault = none →
      (r.load path document replace).dialects.length = (entriesOf document).length) ∧
    (∀ made d rest, (r.load path document replace).dialects = made ++ d :: rest →
      ∃ before name spec after fields now base,
        entriesOf document = before ++ (name, spec) :: after ∧
        r.load path (some (.mapping before)) replace = ⟨now, made, none⟩ ∧
        spec.mapping? = some fields ∧ now.get (baseName fields) = .ok base ∧
        d.name = .str name.text ∧
        (Entries.find? (.str "like_suffix") fields = none ∧ d.RendersLike base ∨
          ∃ suffix, Entries.find? (.str "like_suffix") fields = some (.str suffix) ∧
            d.RendersLike { base with likeSuffix := suffix })) ∧
    (∀ later, ∀ d ∈ ((run builtin calls).load path document replace).dialects,
      ∃ base, Derivation (calls ++ .load path (.ok document) replace :: later) base d ∧
        Rooted (calls ++ .load path (.ok document) replace :: later) base) ∧
    (∀ name d, (run builtin calls).get name = .ok d → Rooted calls d) ∧
    ∀ root d, Relation.ReflTransGen (Derivation calls) root d →
      d.style = root.style ∧ d.PagesLike root ∧
        d.RendersLike { root with likeSuffix := d.likeSuffix } := by
  obtain ⟨carried, uncarried, hentries, hall, hloads⟩ := loads_load r path document replace
  refine ⟨fun hfault => ?_, fun made d rest hmade => ?_, fun later d hd => ?_,
    every_rooted_run calls, fun root d hchain => ?_⟩
  · rw [hentries, hall hfault, List.append_nil, hloads.length_eq]
  · rw [hmade] at hloads
    obtain ⟨before, name, spec, after, now, next, rfl, hbefore, hdeclared, -⟩ := hloads.split
    obtain ⟨fields, base, hfields, -, hbase, hderives⟩ := declared_eq_ok_iff.mp hdeclared
    refine ⟨before, name, spec, after ++ uncarried, fields, now, base, ?_, ?_, hfields, hbase,
      hderives.name_eq, hderives.rendersLike⟩
    · rw [hentries, List.append_assoc, List.cons_append]
    · rw [load_mapping, loadEntries_eq_of_loads hbefore]
  · obtain ⟨base, hderivation⟩ := exists_derivation hd
    exact ⟨base, hderivation, hderivation.rooted_base⟩
  · have hstyle := style_eq_of_chain hchain
    exact ⟨hstyle, Dialect.pagesLike_of_style hstyle, Dialect.rendersLike_of_style hstyle rfl⟩

/-- A document that puts a dialect of another kind in the place of one that is always there. -/
def movedServer : Value := .mapping [(.str "MySQL", .mapping [(.str "base", .str "sqlserver2008")])]

/-- A document with a dialect that is based on the name the other document redefines. -/
def siteServer : Value := .mapping [
  (.str "site", .mapping [(.str "base", .str "mysql"), (.str "like_suffix", .str "ESCAPE '!' ")])]

/-- The second dialect is of the kind of the one it comes from by way of the redefined name, and
pages like that one. -/
theorem derived_renders_like_base_site :
    let moving : List Operation := [.load "moved.yaml" (.ok (some movedServer)) true]
    let calls := moving ++ [.load "site.yaml" (.ok (some siteServer)) false]
    ∃ d base, ((run builtin moving).load "site.yaml" (some siteServer) false).dialects = [d] ∧
      (run builtin moving).get "mysql" = .ok base ∧
      d.RendersLike { base with likeSuffix := "ESCAPE '!' " } ∧
      (∃ b, Derivation calls b d ∧ Rooted calls b) ∧ Rooted moving base ∧
      base.PagesLike ⟨.str "sqlserver2008", "", .rowNumber⟩ := by
  intro moving calls
  have hcomputed :
      ((run builtin moving).load "site.yaml" (some siteServer) false).fault.isNone = true ∧
        ((run builtin moving).find? "mysql").map Dialect.style = some .rowNumber := by
    decide +kernel
  obtain ⟨hfault, hstyle⟩ := hcomputed
  obtain ⟨hlength, hbases, hderivations, hroots, hchains⟩ :=
    derived_renders_like_base (run builtin moving) moving "site.yaml" (some siteServer) false
  obtain ⟨d, hd⟩ := List.length_eq_one_iff.mp (hlength (Option.isNone_iff_eq_none.mp hfault))
  obtain ⟨before, name, spec, after, fields, now, base, hentries, hbefore, hfields, hbase, -,
    hrenders⟩ := hbases [] d [] hd
  -- nothing was made before the only entry, so its base is looked up where the loading starts
  rw [load_mapping, loadEntries_eq_none_iff] at hbefore
  obtain rfl : before = [] := List.eq_nil_of_length_eq_zero hbefore.length_eq.symm
  cases hbefore
  cases hentries
  cases hfields
  have hsame : (run builtin moving).get "mysql" = .ok base := hbase
  rw [get_eq_ok_iff.mp hsame] at hstyle
  obtain ⟨root, horigin, hchain⟩ := hroots "mysql" base hsame
  obtain ⟨hkind, hpages, -⟩ := hchains root base hchain
  have hroot : root = ⟨.str "sqlserver2008", "", .rowNumber⟩ := by
    have hrow : root.style = .rowNumber := hkind.symm.trans (Option.some.inj hstyle)
    rcases horigin with hmem | ⟨earlier, replace, later, next, hcalls, -⟩
    · simp only [Dialect.builtins, List.mem_cons, List.not_mem_nil, or_false] at hmem
      rcases hmem with rfl | rfl | rfl | rfl | rfl | rfl | rfl
      all_goals first | rfl | cases hrow
    · have hmem : Operation.register root replace ∈ moving := by
        rw [hcalls]
        exact List.mem_append_right _ List.mem_cons_self
      cases List.mem_singleton.mp hmem
  refine ⟨d, base, hd, hsame, ?_, hderivations [] d (by rw [hd]; exact List.mem_cons_self),
    ⟨root, horigin, hchain⟩, hroot ▸ hpages⟩
  rcases hrenders with ⟨hnone, -⟩ | ⟨suffix, hsuffix, hrenders⟩
  · cases hnone
  · cases hsuffix
    exact hrenders

end Registry
end SqlTemplate
