import SqlTemplate.Files.Load
import SqlTemplate.Proofs.Outcome
import SqlTemplate.Proofs.Override

/-!
# Lines of a text, lines of a file

A text can come to the reader in two ways, as it is or out of a file, and the two cut it into lines
differently: a file's carriage returns are made line feeds before anything is cut. That this makes
no difference is not a matter of single characters, because a carriage return and a line feed are
**one break in this order and two in the other**. So what it means to be cut is said first, apart
from both ways, as `Cut`: a line goes up to the next break, and a break is a pair where it can be
one. Cutting does just that, and making breaks uniform changes which breaks there are but not what
stands between them.
-/

set_option autoImplicit false

namespace SqlTemplate

namespace Text

/-- The characters that end a line: line feed, vertical tab, form feed, carriage return, the
separators of files, groups and records, next line, and the separators of lines and paragraphs. -/
def lineBreaks : List Char :=
  ['\n', '\x0b', '\x0c', '\r', '\x1c', '\x1d', '\x1e', '\u0085', '\u2028', '\u2029']

theorem isLineBreak_iff {c : Char} : isLineBreak c = true ↔ c ∈ lineBreaks := by
  have hcode : c ∈ lineBreaks ↔ c.toNat ∈ lineBreaks.map Char.toNat := by
    rw [List.mem_map]
    constructor
    · intro hc
      exact ⟨c, hc, rfl⟩
    · rintro ⟨d, hd, heq⟩
      rwa [← Char.toNat_inj.mp heq]
  have hcodes : lineBreaks.map Char.toNat =
      [0x0A, 0x0B, 0x0C, 0x0D, 0x1C, 0x1D, 0x1E, 0x85, 0x2028, 0x2029] := rfl
  rw [hcode, hcodes]
  simp only [isLineBreak, Bool.or_eq_true, Bool.and_eq_true, decide_eq_true_eq, beq_iff_eq,
    List.mem_cons, List.not_mem_nil, or_false]
  omega

/-- No character of the text ends a line. -/
def Unbroken (line : List Char) : Prop := ∀ c ∈ line, c ∉ lineBreaks

/-- A text is cut into lines. A break at the end opens no line after it. -/
inductive Cut : (text : List Char) → (lines : List (List Char)) → Prop where
  | empty : Cut [] []
  | last {line : List Char} (hne : line ≠ []) (hline : Unbroken line) : Cut line [line]
  | pair {line rest : List Char} {lines : List (List Char)} (hline : Unbroken line)
      (hrest : Cut rest lines) : Cut (line ++ '\r' :: '\n' :: rest) (line :: lines)
  /-- One character is a break where it is not the first one of the pair. -/
  | single {line rest : List Char} {lines : List (List Char)} {c : Char} (hline : Unbroken line)
      (hc : c ∈ lineBreaks) (halone : c = '\r' → rest.head? ≠ some '\n')
      (hrest : Cut rest lines) : Cut (line ++ c :: rest) (line :: lines)

/-! ## Cutting -/

section Cutting

variable {text line rest : List Char} {lines : List (List Char)} {c : Char}

theorem splitLines_single (hc : c ∈ lineBreaks) (halone : c = '\r' → rest.head? ≠ some '\n') :
    splitLines (c :: rest) = [] :: splitLines rest := by
  rw [splitLines.eq_3]
  · rw [if_pos (isLineBreak_iff.mpr hc)]
  · rintro after rfl rfl
    exact halone rfl rfl

theorem splitLines_cons (hc : c ∉ lineBreaks) :
    splitLines (c :: text) =
      match splitLines text with
      | [] => [[c]]
      | line :: lines => (c :: line) :: lines := by
  rw [splitLines.eq_3]
  · exact if_neg fun h => hc (isLineBreak_iff.mp h)
  · rintro after rfl -
    exact hc (by decide)

theorem splitLines_unbroken (hne : line ≠ []) (hline : Unbroken line) :
    splitLines line = [line] := by
  induction line with
  | nil => exact absurd rfl hne
  | cons c line ih =>
    obtain ⟨hc, hline⟩ := List.forall_mem_cons.mp hline
    rw [splitLines_cons hc]
    cases line with
    | nil => rfl
    | cons d line => rw [ih (List.cons_ne_nil d line) hline]

/-- Characters that end no line go before the first line of what follows them. -/
theorem splitLines_unbroken_append (hline : Unbroken line)
    (hrest : splitLines rest = [] :: lines) :
    splitLines (line ++ rest) = line :: lines := by
  induction line with
  | nil => exact hrest
  | cons c line ih =>
    obtain ⟨hc, hline⟩ := List.forall_mem_cons.mp hline
    rw [List.cons_append, splitLines_cons hc, ih hline]

theorem Cut.cons (hc : c ∉ lineBreaks) (h : Cut text (line :: lines)) :
    Cut (c :: text) ((c :: line) :: lines) := by
  cases h with
  | last _ hline => exact .last (List.cons_ne_nil c _) (List.forall_mem_cons.mpr ⟨hc, hline⟩)
  | pair hline hrest => exact .pair (List.forall_mem_cons.mpr ⟨hc, hline⟩) hrest
  | single hline hbreak halone hrest =>
    exact .single (List.forall_mem_cons.mpr ⟨hc, hline⟩) hbreak halone hrest

/-- **A text is cut into its lines and in no other way.** -/
theorem splitLines_eq_iff : splitLines text = lines ↔ Cut text lines := by
  have hnil : Unbroken [] := fun _ hc => absurd hc List.not_mem_nil
  constructor
  · rintro rfl
    fun_induction splitLines text with
    | case1 => exact .empty
    | case2 rest ih => exact @Cut.pair [] rest _ hnil ih
    | case3 c rest hpair hc ih =>
      refine @Cut.single [] rest _ c hnil (isLineBreak_iff.mp hc) ?_ ih
      rintro rfl hfeed
      obtain ⟨after, rfl⟩ := List.head?_eq_some_iff.mp hfeed
      exact hpair after rfl rfl
    | case4 c rest hpair hc hnil ih =>
      have hc : c ∉ lineBreaks := fun h => hc (isLineBreak_iff.mpr h)
      rw [hnil] at ih
      cases ih
      exact .last (List.cons_ne_nil c _) (by simpa [Unbroken] using hc)
    | case5 c rest hpair hc line lines heq ih =>
      rw [heq] at ih
      exact ih.cons fun h => hc (isLineBreak_iff.mpr h)
  · intro h
    induction h with
    | empty => rfl
    | last hne hline => exact splitLines_unbroken hne hline
    | pair hline hrest ih =>
      rw [← ih]
      exact splitLines_unbroken_append hline rfl
    | single hline hc halone hrest ih =>
      rw [← ih]
      exact splitLines_unbroken_append hline (splitLines_single hc halone)

theorem Unbroken.filter_eq (h : Unbroken line) : line.filter (fun c => c ∉ lineBreaks) = line :=
  List.filter_eq_self.mpr fun c hc => decide_eq_true (h c hc)

/-- What the lines have between them, the breaks, is all that is lost. -/
theorem Cut.flatten_eq (h : Cut text lines) :
    lines.flatten = text.filter fun c => c ∉ lineBreaks := by
  induction h with
  | empty => rfl
  | last _ hline => rw [List.flatten_cons, List.flatten_nil, List.append_nil, hline.filter_eq]
  | pair hline _ ih =>
    rw [List.flatten_cons, ih, List.filter_append, hline.filter_eq]
    rfl
  | single hline hc _ _ ih =>
    rw [List.flatten_cons, ih, List.filter_append, hline.filter_eq,
      List.filter_cons_of_neg (by simpa using hc)]

theorem Cut.unbroken (h : Cut text lines) : ∀ line ∈ lines, Unbroken line := by
  induction h with
  | empty => simp
  | last _ hline => simpa using hline
  | pair hline _ ih => exact List.forall_mem_cons.mpr ⟨hline, ih⟩
  | single hline _ _ _ ih => exact List.forall_mem_cons.mpr ⟨hline, ih⟩

/-! ## Uniform breaks -/

/-- A character that is not the first one of the pair is looked at by itself. -/
theorem unifyBreaks_cons (halone : c = '\r' → rest.head? ≠ some '\n') :
    unifyBreaks (c :: rest) = (if c = '\r' then '\n' else c) :: unifyBreaks rest := by
  by_cases hc : c = '\r'
  · subst hc
    rw [if_pos rfl, unifyBreaks.eq_3]
    rintro after rfl
    exact halone rfl rfl
  · rw [if_neg hc, unifyBreaks.eq_4]
    · rintro after rfl -
      exact hc rfl
    · exact hc

theorem unifyBreaks_unbroken_append (hline : Unbroken line) :
    unifyBreaks (line ++ rest) = line ++ unifyBreaks rest := by
  induction line with
  | nil => rfl
  | cons c line ih =>
    obtain ⟨hc, hline⟩ := List.forall_mem_cons.mp hline
    have hreturn : c ≠ '\r' := by
      rintro rfl
      exact hc (by decide)
    rw [List.cons_append, unifyBreaks_cons fun h => absurd h hreturn, if_neg hreturn, ih hline]
    rfl

/-- Where a text is cut, it is cut with uniform breaks: a pair and a carriage return by itself have
become one line feed each, and no pair comes about, for there are no carriage returns left. -/
theorem Cut.unifyBreaks (h : Cut text lines) : Cut (unifyBreaks text) lines := by
  have hfeed : '\n' ∈ lineBreaks := by decide
  have hother : '\n' ≠ '\r' := by decide
  induction h with
  | empty => exact .empty
  | @last line hne hline =>
    have hwhole : Text.unifyBreaks (line ++ []) = line ++ Text.unifyBreaks [] :=
      unifyBreaks_unbroken_append hline
    have hsame : Text.unifyBreaks line = line := by
      simpa [Text.unifyBreaks] using hwhole
    rw [hsame]
    exact .last hne hline
  | pair hline _ ih =>
    rw [unifyBreaks_unbroken_append hline, Text.unifyBreaks]
    exact .single hline hfeed (fun h => absurd h hother) ih
  | @single line rest lines c hline hc halone _ ih =>
    rw [unifyBreaks_unbroken_append hline, unifyBreaks_cons halone]
    split
    · exact .single hline hfeed (fun h => absurd h hother) ih
    · next hreturn => exact .single hline hc (fun h => absurd h hreturn) ih

theorem splitLines_unifyBreaks (text : List Char) :
    splitLines (unifyBreaks text) = splitLines text :=
  splitLines_eq_iff.mpr (splitLines_eq_iff.mp rfl).unifyBreaks

end Cutting
end Text

/-! ## Files -/

/-- The bytes that mark a file as UTF-8. -/
def markBytes : ByteArray := ⟨#[0xEF, 0xBB, 0xBF]⟩

section Decode

variable {text : String} (hmark : text.toList.head? ≠ some encodingMark)
include hmark

theorem dropMark_eq_self : dropMark text.toList = text.toList := by
  cases hchars : text.toList with
  | nil => rfl
  | cons c rest =>
    rw [hchars] at hmark
    rw [dropMark, if_neg fun h => hmark (congrArg some h)]

/-- A text is what its bytes are read as, whether they are marked or not. -/
theorem decode?_of_encoded {data : ByteArray}
    (hdata : data = text.toUTF8 ∨ data = markBytes ++ text.toUTF8) :
    decode? data = some text.toList := by
  rcases hdata with rfl | rfl
  · rw [decode?, fromUTF8?_toUTF8, Option.map_some, dropMark_eq_self hmark]
  · have hbytes : markBytes ++ text.toUTF8 = (String.singleton encodingMark ++ text).toUTF8 := by
      simp only [String.toUTF8_eq_toByteArray, String.toByteArray_append]
      rfl
    rw [decode?, hbytes, fromUTF8?_toUTF8, Option.map_some, String.toList_append,
      String.toList_singleton, List.singleton_append, dropMark, if_pos rfl]

end Decode

/-- Entries with different keys, stored where there are none, stay as they are. -/
theorem Entries.putAll_nil_of_nodup {κ ν : Type} [BEq κ] [LawfulBEq κ] {new : List (κ × ν)}
    (h : (keys new).Nodup) : putAll new [] = new := by
  induction new using List.reverseRecOn with
  | nil => rfl
  | append_singleton before e ih =>
    have hkeys : keys (before ++ [e]) = keys before ++ [e.1] := List.map_append
    rw [hkeys, List.nodup_append] at h
    obtain ⟨hbefore, -, hnew⟩ := h
    have hlast : putAll (before ++ [e]) [] = put e.1 e.2 (putAll before []) := List.foldl_append ..
    rw [hlast, ih hbefore]
    exact put_of_not_mem e.2 fun hmem => hnew _ hmem _ (List.mem_singleton_self _) rfl

theorem mergeTables_singleton {table : Table} (h : (Entries.keys table).Nodup) :
    mergeTables [table] = table :=
  Entries.putAll_nil_of_nodup h

theorem parseText_eq_parseLines (text : String) (strict : Bool) :
    parseText text strict = parseLines (Text.linesOf text) strict := by
  simp [parseText, parseLines, Text.linesOf, Function.comp_def]

namespace Disk

variable {disk : Disk} {path : Path}

/-- Loading one file is parsing its lines. -/
theorem load_singleton {lines : List (List Char)} (strict : Bool)
    (hlines : disk.templateLines path = .ok lines)
    (hnodup : ∀ table, (readTemplate lines).table strict = .ok table →
      (Entries.keys table).Nodup) :
    disk.load strict [path] = ((readTemplate lines).table strict).mapError .format := by
  have hone : disk.loadTable strict path =
      ((readTemplate lines).table strict).mapError .format := by
    rw [loadTable, hlines]
    rfl
  rw [load, List.mapM_cons, hone]
  cases hread : (readTemplate lines).table strict with
  | error e => rfl
  | ok table => exact congrArg Except.ok (mergeTables_singleton (hnodup table hread))

/-- **A template is the same out of a file and as a text.** A file holds a text in UTF-8, perhaps
with a mark before it. Its lines are those into which the text is cut, and so loading it comes to
what parsing the text comes to, the table or the same fault in the same line. Between them the lines
have every character of the text that ends no line, in order, and no other. -/
theorem file_read_as_text {text : String} {data : ByteArray}
    (hmark : text.toList.head? ≠ some encodingMark)
    (hdata : data = text.toUTF8 ∨ data = markBytes ++ text.toUTF8)
    (hfile : disk.file? path = some data) :
    disk.templateLines path = .ok (Text.splitLines text.toList) ∧
      (∀ strict, disk.load strict [path] = (parseText text strict).mapError .format) ∧
      Text.Cut text.toList (Text.splitLines text.toList) ∧
      (Text.splitLines text.toList).flatten =
        text.toList.filter (fun c => c ∉ Text.lineBreaks) ∧
      ∀ line ∈ Text.splitLines text.toList, ∀ c ∈ line, c ∉ Text.lineBreaks := by
  have hcut : Text.Cut text.toList (Text.splitLines text.toList) := Text.splitLines_eq_iff.mp rfl
  have hlines : disk.templateLines path = .ok (Text.splitLines text.toList) := by
    simp only [templateLines, hfile, rawLines?, decode?_of_encoded hmark hdata,
      Option.map_some, Text.splitLines_unifyBreaks]
  refine ⟨hlines, fun strict => ?_, hcut, hcut.flatten_eq, hcut.unbroken⟩
  refine load_singleton strict hlines fun table htable => ?_
  have hparsed : parseLines (Text.linesOf text) strict = .ok table :=
    (parseText_eq_parseLines text strict).symm.trans htable
  exact nodup_keys_of_parseLines hparsed

/-- A marked file with breaks of four kinds: the first two characters that are one are one break,
the same two the other way round are two, and the last break opens no line. -/
theorem file_read_as_text_mixed :
    let text := "@NAME(A)\r\n  x\n\r  y\u0085  z\r"
    let data := markBytes ++ text.toUTF8
    let disk : Disk := ⟨[.directory "sql" [.file "a.elsql" data]], ["sql"]⟩
    let path := Path.ofText "a.elsql"
    text.toList.head? ≠ some encodingMark ∧
      disk.file? path = some data ∧
      disk.templateLines path =
        .ok ["@NAME(A)".toList, "  x".toList, [], "  y".toList, "  z".toList] ∧
      disk.load true [path] =
        .ok [("A", .block (.named "A") [.text "x ", .text "y ", .text "z "])] := by
  intro text data disk path
  have hmark : text.toList.head? ≠ some encodingMark := by decide
  have hfile : disk.file? path = some data := by rfl
  obtain ⟨hlines, hload, -⟩ := file_read_as_text hmark (Or.inr rfl) hfile
  have hcut : Text.splitLines text.toList =
      ["@NAME(A)".toList, "  x".toList, [], "  y".toList, "  z".toList] := by cbv
  have hparse : parseText text true =
      .ok [("A", .block (.named "A") [.text "x ", .text "y ", .text "z "])] := by cbv
  refine ⟨hmark, hfile, hcut ▸ hlines, ?_⟩
  rw [hload, hparse]
  rfl

end Disk
end SqlTemplate
