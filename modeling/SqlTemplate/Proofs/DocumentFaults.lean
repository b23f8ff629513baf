import SqlTemplate.Command
import SqlTemplate.Proofs.LoadedEntries

/-!
# Faults of documents

A document of dialects may hold anything at any place: an entry that is a number, a key that is a
truth value, a name that is nothing. Each of these is either taken by its text or found out, and
**what is found out is reported**, with the name of the entry that has it. The command hands the
report on to its user, on the log and by its status.

There is one way out of this. Unknown keys are reported in order, and keys of two sorts have none.
An entry with such keys is as wrong as one with a single unknown key, but what comes of it is a
fault of another kind, which the command does not report. `MeetsMixedKeys` is exactly the condition
for it.
-/

set_option autoImplicit false

namespace SqlTemplate

/-! ## Keys that have an order -/

/-- The sorts of keys that have an order. -/
inductive KeyOrder where
  | texts
  | bytes
  | numbers

namespace Value

/-- The sort in which a key has its place, if there is one; truth values count as numbers. -/
def keyOrder? : Value → Option KeyOrder
  | .str _ => some .texts
  | .bytes _ => some .bytes
  | .bool _ => some .numbers
  | .int _ => some .numbers
  | .float _ => some .numbers
  | .null => none
  | .list _ => none
  | .mapping _ => none

/-- Keys that can be listed in order: a single one, or several of one sort. -/
def Listable (keys : List Value) : Prop :=
  keys.length ≤ 1 ∨ ∃ order, ∀ k ∈ keys, k.keyOrder? = some order

theorem isSome_less?_iff {a b : Value} :
    (less? a b).isSome = true ↔ ∃ order, a.keyOrder? = some order ∧ b.keyOrder? = some order := by
  cases a <;> cases b <;> simp [less?, number?, keyOrder?]

theorem incomparable?_eq_none_iff {keys : List Value} :
    incomparable? keys = none ↔ Listable keys := by
  induction keys with
  | nil => simp [incomparable?, Listable]
  | cons a rest ih =>
    cases rest with
    | nil => simp [incomparable?, Listable]
    | cons b rest =>
      have hstep : incomparable? (a :: b :: rest) = none ↔
          (less? b a).isSome = true ∧ incomparable? (b :: rest) = none := by
        rw [incomparable?]
        cases less? b a <;> simp
      rw [hstep, isSome_less?_iff, ih]
      constructor
      · rintro ⟨⟨order, hb, ha⟩, hrest⟩
        refine Or.inr ⟨order, fun k hk => ?_⟩
        rcases List.mem_cons.mp hk with rfl | hk
        · exact ha
        · -- the sort that the second key shares with the first is that of all after it
          rcases hrest with hsingle | ⟨other, hother⟩
          · have hnil : rest = [] := by simpa using hsingle
            subst hnil
            rw [List.mem_singleton.mp hk]
            exact hb
          · have hsame : other = order := by
              rw [hother b List.mem_cons_self] at hb
              exact Option.some.inj hb
            exact hsame ▸ hother k hk
      · rintro (hsingle | ⟨order, hall⟩)
        · simp at hsingle
        · refine ⟨⟨order, hall b (by simp), hall a List.mem_cons_self⟩, Or.inr ⟨order, ?_⟩⟩
          exact fun k hk => hall k (List.mem_cons_of_mem _ hk)

theorem exists_inOrder_eq_error_iff {keys : List Value} :
    (∃ later earlier, inOrder keys = .error (later, earlier)) ↔ ¬ Listable keys := by
  rw [← incomparable?_eq_none_iff, inOrder]
  cases hsorts : incomparable? keys with
  | none => simp
  | some sorts =>
    obtain ⟨later, earlier⟩ := sorts
    simp

end Value

/-! ## What is reported -/

/-- The reports about an entry: four about what it says, and two about registering what it
declares. -/
inductive EntryReport (path : String) (name : Value) : DocumentFault → Prop where
  | notMapping : EntryReport path name (.entryNotMapping name.text path)
  | unknownKeys (keys : List Value) : EntryReport path name (.unknownKeys name.text keys path)
  | unknownBase (base : String) (available : List String) :
      EntryReport path name (.unknownBase name.text (.unknown base available))
  | suffixNotText : EntryReport path name (.suffixNotText name.text)
  | unnamed (h : name.text = "") : EntryReport path name (.dialect .unnamed)
  | taken : EntryReport path name (.dialect (.alreadyRegistered name.text))

/-- The reports about a document: that it is no mapping, and those about its entries. -/
inductive DocumentReport (path : String) (document : Value) : DocumentFault → Prop where
  | notMapping (h : document.mapping? = none) :
      DocumentReport path document (.dialectsNotMapping path)
  | entry {entries : List (Value × Value)} {name spec : Value} {fault : DocumentFault}
      (hentries : document.mapping? = some entries) (hmem : (name, spec) ∈ entries)
      (h : EntryReport path name fault) : DocumentReport path document fault

theorem DocumentReport.isReported {path : String} {document : Value} {fault : DocumentFault}
    (h : DocumentReport path document fault) : (RunFault.document fault).isReported = true := by
  cases h with
  | notMapping => rfl
  | entry _ _ h => cases h <;> rfl

namespace Registry

/-- The document is gone through without a fault up to an entry whose unknown keys have no order. -/
def MeetsMixedKeys (r : Registry) (path : String) (replace : Bool) (document : Value) : Prop :=
  ∃ before name spec rest fields ds r',
    document.mapping? = some (before ++ (name, spec) :: rest) ∧
    Loads path replace r before ds r' ∧ spec.mapping? = some fields ∧
    ¬ Value.Listable (unknownKeys fields)

section Faults

variable {r : Registry} {path : String} {replace : Bool} {name spec document : Value}
  {fault : DocumentFault}

theorem register_eq_error {d : Dialect} {text : String} {cause : DialectError}
    (hname : d.name = .str text) (h : r.register d replace = .error cause) :
    (text = "" ∧ cause = .unnamed) ∨ cause = .alreadyRegistered text := by
  rw [register, hname] at h
  simp only at h
  split at h
  · next hempty =>
    cases h
    exact Or.inl ⟨by simpa using hempty, rfl⟩
  · split at h
    · cases h
      exact Or.inr rfl
    · cases h

theorem get_eq_error {text : String} {cause : DialectError} (h : r.get text = .error cause) :
    cause = .unknown text r.available := by
  rw [get] at h
  split at h
  · cases h
  · cases h
    rfl

/-- What stops a loading at an entry is reported, or it is that the unknown keys have no order. -/
theorem StopsAt.report_or_incomparable (h : StopsAt r path replace name spec fault) :
    EntryReport path name fault ∨
      ∃ fields later earlier, spec.mapping? = some fields ∧
        ¬ Value.Listable (unknownKeys fields) ∧ fault = .incomparable later earlier := by
  cases h with
  | declaring hfault =>
    cases hfault with
    | notMapping => exact Or.inl .notMapping
    | unknownKeys => exact Or.inl (.unknownKeys _)
    | @incomparable fields later earlier hfields horder =>
      exact Or.inr ⟨fields, later, earlier, hfields,
        Value.exists_inOrder_eq_error_iff.mp ⟨later, earlier, horder⟩, rfl⟩
    | unknownBase _ _ hbase =>
      obtain rfl := get_eq_error hbase
      exact Or.inl (.unknownBase _ _)
    | suffixNotText => exact Or.inl .suffixNotText
  | registering hd hregister =>
    obtain ⟨_, _, -, -, -, hderives⟩ := declared_eq_ok_iff.mp hd
    rcases register_eq_error hderives.name_eq hregister with ⟨hempty, rfl⟩ | rfl
    · exact Or.inl (.unnamed hempty)
    · exact Or.inl .taken

theorem stopsAt_of_not_listable {fields : List (Value × Value)}
    (hfields : spec.mapping? = some fields) (h : ¬ Value.Listable (unknownKeys fields)) :
    ∃ later earlier, StopsAt r path replace name spec (.incomparable later earlier) := by
  obtain ⟨later, earlier, horder⟩ := Value.exists_inOrder_eq_error_iff.mpr h
  exact ⟨later, earlier, .declaring (.incomparable hfields horder)⟩

/-- The fault of a document is reported unless the loading has come to keys without an order. -/
theorem report_of_load (hordered : ¬ MeetsMixedKeys r path replace document)
    (h : (r.load path (some document) replace).fault = some fault) :
    DocumentReport path document fault := by
  have hload : r.load path (some document) replace =
      ⟨(r.load path (some document) replace).registry,
        (r.load path (some document) replace).dialects, some fault⟩ := by
    rw [← h]
  rcases load_eq_some_iff.mp hload with ⟨hnone, -⟩ | ⟨v, hv, hnone, -, -, rfl⟩ |
    ⟨v, before, name, spec, rest, hv, hentries, hloads, hstops⟩
  · cases hnone
  · cases hv
    exact .notMapping hnone
  · cases hv
    rcases hstops.report_or_incomparable with hreport | ⟨fields, -, -, hfields, hmixed, -⟩
    · exact .entry hentries (List.mem_append_right before List.mem_cons_self) hreport
    · exact absurd
        ⟨before, name, spec, rest, fields, _, _, hentries, hloads, hfields, hmixed⟩ hordered

theorem incomparable_of_meetsMixedKeys (h : MeetsMixedKeys r path replace document) :
    ∃ later earlier, (r.load path (some document) replace).fault =
      some (.incomparable later earlier) := by
  obtain ⟨before, name, spec, rest, fields, ds, r', hentries, hloads, hfields, hmixed⟩ := h
  obtain ⟨later, earlier, hstops⟩ := stopsAt_of_not_listable (r := r') hfields hmixed
  refine ⟨later, earlier, ?_⟩
  rw [load_eq_some_iff.mpr (Or.inr (Or.inr
    ⟨document, before, name, spec, rest, rfl, hentries, hloads, hstops⟩))]

end Faults

/-! ## Runs of the command -/

/-- The log of a run whose document of dialects has a fault, up to the report. -/
def loadingLog (invocation : Invocation) (path : Path) (document : Value) : String :=
  if invocation.debug then
    String.join ((builtin.load path.text (some document) true).events.map Event.line)
  else ""

/-- A run with a faulty document of dialects does nothing else: it reports the fault, or ends with
it if it is none that is reported. -/
theorem runCommand_of_fault {disk : Disk} {library : Library} {words : List String}
    {invocation : Invocation} {path : Path} {document : Value} {fault : DocumentFault}
    (hread : Invocation.read words = .ok invocation)
    (hpath : invocation.request.dialectsFile? = some path)
    (hdocument : Request.document disk library path = .ok (some document))
    (hfault : (builtin.load path.text (some document) true).fault = some fault) :
    runCommand disk library words =
      if (RunFault.document fault).isReported then
        { output := ""
          log := loadingLog invocation path document ++
            String.ofList (Text.trimRight fault.message.toList) ++ "\n"
          ending := .status 2 }
      else
        { output := ""
          log := loadingLog invocation path document
          ending := .fault (.document fault) } := by
  have hloading : invocation.request.loading disk library =
      builtin.load path.text (some document) true := by
    simp only [Request.loading, hpath, hdocument]
  have hcarried : invocation.request.carryOut disk library =
      ((builtin.load path.text (some document) true).events, .error (.document fault)) := by
    rw [Request.carryOut, hloading, hfault]
  rw [runCommand, hread]
  show invocation.run disk library = _
  rw [Invocation.run, hcarried]
  rfl

/-- **A document is loaded or reported.** Unless the loading comes to an entry whose unknown keys
have no order, it either carries out all entries or ends with one of the reports about the document,
and in that case the command writes the report on the log, nothing else for the caller, and ends
with the status 2, whatever library has read the document. If it does come to such an entry, that is
the fault, and it is not reported. -/
theorem documents_reported (r : Registry) (path : String) (replace : Bool) (document : Value) :
    (¬ MeetsMixedKeys r path replace document →
      let loading := r.load path (some document) replace
      (loading.fault = none ∧ ∃ entries, document.mapping? = some entries ∧
          Loads path replace r entries loading.dialects loading.registry) ∨
        ∃ fault, loading.fault = some fault ∧ DocumentReport path document fault) ∧
    (∀ (disk : Disk) (library : Library) (words : List String) (invocation : Invocation)
        (file : Path) (fault : DocumentFault),
      Invocation.read words = .ok invocation →
      invocation.request.dialectsFile? = some file →
      Request.document disk library file = .ok (some document) →
      ¬ MeetsMixedKeys builtin file.text true document →
      (builtin.load file.text (some document) true).fault = some fault →
      runCommand disk library words = {
        output := ""
        log := loadingLog invocation file document ++
          String.ofList (Text.trimRight fault.message.toList) ++ "\n"
        ending := .status 2 }) ∧
    (MeetsMixedKeys r path replace document ↔
      ∃ later earlier, (r.load path (some document) replace).fault =
        some (.incomparable later earlier)) := by
  refine ⟨fun hordered => ?_,
    fun disk library words invocation file fault hread hfile hdocument hordered hfault => ?_,
    incomparable_of_meetsMixedKeys, ?_⟩
  · intro loading
    cases hfault : loading.fault with
    | none =>
      refine Or.inl ⟨rfl, load_eq_none_iff.mp ?_⟩
      rw [← hfault]
    | some fault => exact Or.inr ⟨fault, rfl, report_of_load hordered hfault⟩
  · rw [runCommand_of_fault hread hfile hdocument hfault,
      if_pos (report_of_load hordered hfault).isReported]
  · rintro ⟨later, earlier, hfault⟩
    by_contra hordered
    have hreported := (report_of_load hordered hfault).isReported
    cases hreported

/-- A disk with one file in its working directory. -/
def diskWith (text : String) : Disk := ⟨[.file "d.yaml" text.toUTF8], []⟩

/-- A library that knows the meaning of one document. -/
def libraryOf (text : String) (document : Value) : Library where
  readPatterns := fun _ => .error ⟨.value, "no patterns"⟩
  readDocument := fun chars =>
    if chars = Text.unifyBreaks text.toList then .ok document
    else .error ⟨.document, "another document"⟩

theorem document_diskWith (text : String) (document : Value) :
    Request.document (diskWith text) (libraryOf text document) (Path.ofText "d.yaml") =
      .ok (some document) := by
  have hfile : (diskWith text).file? (Path.ofText "d.yaml") = some text.toUTF8 := by cbv
  rw [Request.document, hfile]
  simp only [fromUTF8?_toUTF8, libraryOf, if_pos]
  rfl

/-- The words of a run that reads that file. -/
def dialectsWords : List String := ["dialects", "--dialects-file", "d.yaml"]

/-- What these words ask for. -/
theorem read_dialectsWords :
    Invocation.read dialectsWords = .ok ⟨false, .dialects (some (Path.ofText "d.yaml"))⟩ := by
  cbv

/-- The first entry has two unknown keys, a number and a text. -/
def mixedKeys : Value := .mapping [
  (.str "x", .mapping [(.int 0, .str "a"), (.str "foo", .str "b")])]

/-- The document as it is written. -/
def mixedKeysText : String := "x:\n  0: a\n  foo: b\n"

/-- Two unknown keys, one a number and one a text, end a loading with a fault that is not
reported, and with it a run of the command. -/
theorem load_not_reported_of_mixed_keys :
    builtin.Reached ∧
      (builtin.load "d.yaml" (some mixedKeys) true).fault = some (.incomparable "str" "int") ∧
      (runCommand (diskWith mixedKeysText) (libraryOf mixedKeysText mixedKeys)
          dialectsWords).ending =
        .fault (.document (.incomparable "str" "int")) := by
  have hstops (path : String) : StopsAt builtin path true (.str "x")
      (.mapping [(.int 0, .str "a"), (.str "foo", .str "b")]) (.incomparable "str" "int") :=
    .declaring (.incomparable rfl rfl)
  have hfault (path : String) : (builtin.load path (some mixedKeys) true).fault =
      some (.incomparable "str" "int") := by
    rw [load_eq_some_iff.mpr (Or.inr (Or.inr
      ⟨mixedKeys, [], _, _, [], rfl, rfl, .none builtin, hstops path⟩))]
  refine ⟨⟨[], rfl⟩, hfault "d.yaml", ?_⟩
  rw [runCommand_of_fault read_dialectsWords rfl (document_diskWith _ _) (hfault _)]
  rfl

/-- A document whose second entry has no text for a name and two unknown keys, both of them
numbers. -/
def numberedKeys : Value := .mapping [
  (.bool true, .null), (.null, .mapping [(.int 7, .null), (.bool false, .list [])])]

/-- The document as it is written. -/
def numberedKeysText : String := "true:\nnull:\n  7:\n  false: []\n"

/-- The keys have an order and are reported in it, and the run ends with the report. -/
theorem documents_reported_numbers :
    let disk := diskWith numberedKeysText
    let library := libraryOf numberedKeysText numberedKeys
    ¬ MeetsMixedKeys builtin (Path.ofText "d.yaml").text true numberedKeys ∧
      (∃ fault, (builtin.load (Path.ofText "d.yaml").text (some numberedKeys) true).fault =
          some fault ∧
        DocumentReport (Path.ofText "d.yaml").text numberedKeys fault) ∧
      Invocation.read dialectsWords = .ok ⟨false, .dialects (some (Path.ofText "d.yaml"))⟩ ∧
      Request.document disk library (Path.ofText "d.yaml") = .ok (some numberedKeys) ∧
      runCommand disk library dialectsWords = {
        output := ""
        log := "Dialect 'None' has unknown keys [False, 7] in d.yaml\n"
        ending := .status 2 } := by
  intro disk library
  obtain ⟨hloaded, hcommand, hmixed⟩ :=
    documents_reported builtin (Path.ofText "d.yaml").text true numberedKeys
  have hreported : (builtin.load (Path.ofText "d.yaml").text (some numberedKeys) true).fault.map
      (fun fault => (fault.message, (RunFault.document fault).isReported)) =
        some ("Dialect 'None' has unknown keys [False, 7] in d.yaml", true) := by
    decide +kernel
  obtain ⟨fault, hfault, hpair⟩ := Option.map_eq_some_iff.mp hreported
  obtain ⟨hmessage, hkind⟩ := Prod.mk.inj hpair
  have hordered : ¬ MeetsMixedKeys builtin (Path.ofText "d.yaml").text true numberedKeys := by
    rw [hmixed, hfault]
    rintro ⟨later, earlier, hother⟩
    cases hother
    cases hkind
  have hdocument : Request.document disk library (Path.ofText "d.yaml") =
      .ok (some numberedKeys) := document_diskWith _ _
  have hreport : DocumentReport (Path.ofText "d.yaml").text numberedKeys fault := by
    rcases hloaded hordered with ⟨hnone, -⟩ | ⟨other, hother, hreport⟩
    · rw [hfault] at hnone
      cases hnone
    · rw [hfault] at hother
      cases hother
      exact hreport
  have htrimmed : String.ofList (Text.trimRight
      "Dialect 'None' has unknown keys [False, 7] in d.yaml".toList) ++ "\n" =
        "Dialect 'None' has unknown keys [False, 7] in d.yaml\n" := by decide +kernel
  refine ⟨hordered, ⟨fault, hfault, hreport⟩, read_dialectsWords, hdocument, ?_⟩
  rw [hcommand disk library dialectsWords _ _ fault read_dialectsWords rfl hdocument hordered
    hfault, hmessage, String.append_assoc, htrimmed]
  rfl

end Registry
end SqlTemplate
