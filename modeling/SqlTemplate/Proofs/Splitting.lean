import Mathlib
import SqlTemplate.Proofs.ContentLine
import SqlTemplate.Proofs.Outcome
import SqlTemplate.Proofs.WrittenTags

/-!
# Splitting a line loses nothing

A content line is text with inline tags in it. How it is split is said here apart from the reader:
the text up to the nearest tag is kept as it is, the tag is one of the written ones, and what
follows it is split the same way; text that no tag follows is trimmed and gets a space after it.
**The reader splits a line just so, and refuses just the lines that cannot be split.**

Of what is split nothing is lost: the fragments can be written down again, each in a way that makes
it, and what is written is the line, white space apart.
-/

set_option autoImplicit false

namespace SqlTemplate

open InlineTag (Keyless)

/-- A text is split into fragments. -/
inductive Splits : List Char → List Fragment → Prop where
  | blank {text : List Char} (h : Text.trim text = []) : Splits text []
  | last {text : List Char} (hne : Text.trim text ≠ []) (hat : (Text.trim text).head? ≠ some '@')
      (hlast : Keyless (Text.trim text)) :
      Splits text [.text (String.ofList (Text.trim text ++ [' ']))]
  | tag {text before args rest : List Char} {tag : InlineTag} {f : Fragment} {more : List Fragment}
      (hcut : Text.trim text = before ++ tag.keyword ++ (args ++ rest)) (hbefore : Keyless before)
      (hwritten : tag.Written args rest f) (hmore : Splits rest more) :
      Splits text (Line.leadingText before ++ f :: more)

/-- A line is refused: what is left of it after some tags begins with an `@` and has no tag, or its
nearest tag is not written in any way that there is. -/
inductive Refused : Line → FormatError → Prop where
  | unknown {line : Line} (hat : line.trimmed.head? = some '@') (hnone : Keyless line.trimmed) :
      Refused line ⟨.unknownTag, line⟩
  | malformed {line : Line} {before after : List Char} {tag : InlineTag}
      (hcut : line.trimmed = before ++ tag.keyword ++ after) (hbefore : Keyless before)
      (hunwritten : ∀ args rest f, after = args ++ rest → ¬ tag.Written args rest f) :
      Refused line ⟨.malformed tag.keyword, line⟩
  | later {line : Line} {before args rest : List Char} {tag : InlineTag} {f : Fragment}
      {e : FormatError} (hcut : line.trimmed = before ++ tag.keyword ++ (args ++ rest))
      (hbefore : Keyless before) (hwritten : tag.Written args rest f)
      (hrest : Refused (line.withChars rest) e) : Refused line e

/-! ## The reader -/

section Reader

variable {text before after : List Char} {tag : InlineTag} {fs : List Fragment} {line : Line}
  {e : FormatError}

theorem lineText_trim (hne : Text.trim text ≠ []) :
    Fragment.lineText (Text.trim text) = String.ofList (Text.trim text ++ [' ']) := by
  have htrim : Text.trim (Text.trim text) = Text.trim text :=
    Text.trim_eq_self (Text.head?_trim_not _) (Text.getLast?_trim_not _)
  unfold Fragment.lineText
  rw [htrim]
  split
  · next hnil => exact absurd hnil hne
  · rfl

theorem not_keyless_of_cut (hcut : text = before ++ tag.keyword ++ after) : ¬ Keyless text := by
  intro h
  exact h tag ⟨before, after, hcut.symm⟩

theorem splits_blank_iff (hblank : Text.trim text = []) : Splits text fs ↔ fs = [] := by
  constructor
  · intro h
    cases h with
    | blank => rfl
    | last hne => exact absurd hblank hne
    | tag hcut =>
      rw [hblank] at hcut
      simp [InlineTag.keyword_ne_nil] at hcut
  · rintro rfl
    exact .blank hblank

theorem splits_untagged_iff (hne : Text.trim text ≠ []) (hnone : Keyless (Text.trim text)) :
    Splits text fs ↔ (Text.trim text).head? ≠ some '@' ∧
      fs = [.text (String.ofList (Text.trim text ++ [' ']))] := by
  constructor
  · intro h
    cases h with
    | blank hblank => exact absurd hblank hne
    | last _ hat => exact ⟨hat, rfl⟩
    | tag hcut => exact absurd hnone (not_keyless_of_cut hcut)
  · rintro ⟨hat, rfl⟩
    exact .last hne hat hnone

/-- A text with a tag is split at its nearest one. -/
theorem splits_tagged_iff
    (hs : InlineTag.splitFirst? (Text.trim text) = some (before, tag, after)) :
    Splits text fs ↔ ∃ f rest more, tag.read? after = some (f, rest) ∧ Splits rest more ∧
      fs = Line.leadingText before ++ f :: more := by
  constructor
  · intro h
    cases h with
    | blank hblank =>
      rw [hblank] at hs
      cases hs
    | last _ _ hlast =>
      rw [InlineTag.splitFirst?_eq_none_iff.mpr hlast] at hs
      cases hs
    | tag hcut hbefore hwritten hmore =>
      rw [InlineTag.splitFirst?_eq_some_iff.mpr ⟨hcut, hbefore⟩] at hs
      cases hs
      exact ⟨_, _, _, InlineTag.read?_eq_some_iff.mpr ⟨_, rfl, hwritten⟩, hmore, rfl⟩
  · rintro ⟨f, rest, more, hread, hmore, rfl⟩
    obtain ⟨hcut, hbefore⟩ := InlineTag.splitFirst?_eq_some_iff.mp hs
    obtain ⟨args, rfl, hwritten⟩ := InlineTag.read?_eq_some_iff.mp hread
    exact .tag hcut hbefore hwritten hmore

/-- **A line is read as the fragments that it splits into.** -/
theorem content_eq_ok_iff_splits : line.content = .ok fs ↔ Splits line.chars fs := by
  induction line using Line.content_induction generalizing fs with
  | blank line hblank =>
    rw [Line.content_blank hblank, splits_blank_iff hblank, Except.ok.injEq, eq_comm]
  | untagged line hne hs =>
    rw [Line.content_untagged hne hs,
      splits_untagged_iff hne (InlineTag.splitFirst?_eq_none_iff.mp hs),
      show Fragment.lineText line.trimmed = _ from lineText_trim hne]
    split
    · next hat => simp [show (Text.trim line.chars).head? = some '@' from hat]
    · next hat => simp [show ¬ (Text.trim line.chars).head? = some '@' from hat, eq_comm]
  | unread line before tag after hs hr =>
    rw [Line.content_unread hs hr, splits_tagged_iff hs, hr]
    simp
  | tagged line before tag after f rest hs hr ih =>
    rw [Line.content_tagged hs hr, splits_tagged_iff hs, hr, Outcome.map_eq_ok_iff]
    constructor
    · rintro ⟨more, hmore, rfl⟩
      exact ⟨f, rest, more, rfl, ih.mp hmore, rfl⟩
    · rintro ⟨_, _, more, hread, hmore, rfl⟩
      cases hread
      exact ⟨more, ih.mpr hmore, rfl⟩

theorem not_refused_of_blank (hblank : line.trimmed = []) : ¬ Refused line e := by
  intro h
  cases h with
  | unknown hat => simp [hblank] at hat
  | malformed hcut => simp [hblank, InlineTag.keyword_ne_nil] at hcut
  | later hcut => simp [hblank, InlineTag.keyword_ne_nil] at hcut

theorem refused_untagged_iff (hnone : Keyless line.trimmed) :
    Refused line e ↔ line.trimmed.head? = some '@' ∧ e = ⟨.unknownTag, line⟩ := by
  constructor
  · intro h
    cases h with
    | unknown hat => exact ⟨hat, rfl⟩
    | malformed hcut => exact absurd hnone (not_keyless_of_cut hcut)
    | later hcut => exact absurd hnone (not_keyless_of_cut hcut)
  · rintro ⟨hat, rfl⟩
    exact .unknown hat hnone

/-- A line with a tag is refused for its nearest one, or for what follows that. -/
theorem refused_tagged_iff
    (hs : InlineTag.splitFirst? line.trimmed = some (before, tag, after)) :
    Refused line e ↔ tag.read? after = none ∧ e = ⟨.malformed tag.keyword, line⟩ ∨
      ∃ f rest, tag.read? after = some (f, rest) ∧ Refused (line.withChars rest) e := by
  obtain ⟨hcut, hbefore⟩ := InlineTag.splitFirst?_eq_some_iff.mp hs
  constructor
  · intro h
    cases h with
    | unknown _ hnone => exact absurd hnone (not_keyless_of_cut hcut)
    | malformed hcut' hbefore' hunwritten =>
      rw [InlineTag.splitFirst?_eq_some_iff.mpr ⟨hcut', hbefore'⟩] at hs
      cases hs
      refine Or.inl ⟨?_, rfl⟩
      cases hread : tag.read? after with
      | none => rfl
      | some read =>
        obtain ⟨args, hafter, hwritten⟩ := InlineTag.read?_eq_some_iff.mp hread
        exact absurd hwritten (hunwritten _ _ _ hafter)
    | later hcut' hbefore' hwritten hrest =>
      rw [InlineTag.splitFirst?_eq_some_iff.mpr ⟨hcut', hbefore'⟩] at hs
      cases hs
      exact Or.inr ⟨_, _, InlineTag.read?_eq_some_iff.mpr ⟨_, rfl, hwritten⟩, hrest⟩
  · rintro (⟨hunread, rfl⟩ | ⟨f, rest, hread, hrest⟩)
    · refine .malformed hcut hbefore fun args rest f hafter hwritten => ?_
      rw [InlineTag.read?_eq_some_iff.mpr ⟨args, hafter, hwritten⟩] at hunread
      cases hunread
    · obtain ⟨args, rfl, hwritten⟩ := InlineTag.read?_eq_some_iff.mp hread
      exact .later hcut hbefore hwritten hrest

/-- **A line is refused for what stands against splitting it**, and with the rest of it that cannot
be split. -/
theorem content_eq_error_iff_refused : line.content = .error e ↔ Refused line e := by
  induction line using Line.content_induction with
  | blank line hblank => simp [Line.content_blank hblank, not_refused_of_blank hblank]
  | untagged line hne hs =>
    rw [Line.content_untagged hne hs,
      refused_untagged_iff (InlineTag.splitFirst?_eq_none_iff.mp hs)]
    split
    · next hat => simp [hat, eq_comm]
    · next hat => simp [hat]
  | unread line before tag after hs hr =>
    rw [Line.content_unread hs hr, refused_tagged_iff hs, hr]
    simp [eq_comm]
  | tagged line before tag after f rest hs hr ih =>
    rw [Line.content_tagged hs hr, refused_tagged_iff hs, hr, Outcome.map_eq_error_iff, ih]
    simp

end Reader

/-- A space ends no tag. -/
theorem InlineTag.Keyless.append_space {text : List Char} (h : Keyless text) :
    Keyless (text ++ [' ']) := by
  intro tag hinfix
  rcases List.infix_concat_iff.mp hinfix with hsuffix | hinfix
  · rcases List.suffix_concat_iff.mp hsuffix with hnil | ⟨word, hword, -⟩
    · exact tag.keyword_ne_nil hnil
    · have hmem : ' ' ∈ tag.keyword := by simp [hword]
      revert hmem
      cases tag <;> decide
  · exact h tag hinfix

/-! ## Writing the fragments down again -/

open InlineTag in
/-- A way to write a fragment. Any number of zeros may lead a fixed number of rows. -/
inductive Spells : Fragment → List Char → Prop where
  | text (t : String) : Spells (.text t) t.toList
  | inclusion (target : Target) :
      Spells (.inclusion target) (keyword .inclusion ++ '(' :: target.text.toList ++ [')'])
  | like (name body : String) {closing : List Char} (hclosing : closing = [] ∨ closing = endLike) :
      Spells (.block (.like name) [.text body]) (keyword .like ++ body.toList ++ closing)
  | offsetFetch (offset limit : String) :
      Spells (.offsetFetch (some offset) (some limit) none)
        (keyword .offsetFetch ++ '(' :: ':' :: offset.toList ++ ',' :: ':' :: limit.toList ++ [')'])
  | bareOffsetFetch :
      Spells (.offsetFetch (some defaultOffset) (some defaultFetch) none) (keyword .offsetFetch)
  | fetch (limit : String) :
      Spells (.offsetFetch none (some limit) none)
        (keyword .fetch ++ '(' :: ':' :: limit.toList ++ [')'])
  | rows (zeros n : Nat) :
      Spells (.offsetFetch none none (some n))
        (keyword .fetch ++ '(' :: List.replicate zeros '0' ++ Nat.toDigits 10 n ++ [')'])
  | bareFetch : Spells (.offsetFetch none (some defaultFetch) none) (keyword .fetch)

/-- A text without its white space. -/
def squeeze (cs : List Char) : List Char := cs.filter fun c => !Text.isBlank c

theorem squeeze_append (cs ds : List Char) : squeeze (cs ++ ds) = squeeze cs ++ squeeze ds :=
  List.filter_append ..

theorem squeeze_eq_nil {gap : List Char} (hgap : ∀ c ∈ gap, Text.isBlank c = true) :
    squeeze gap = [] := by
  simpa [squeeze] using hgap

theorem squeeze_trim (cs : List Char) : squeeze (Text.trim cs) = squeeze cs := by
  obtain ⟨before, after, hcs, hbefore, hafter⟩ := Text.exists_eq_append_trim_append cs
  conv_rhs => rw [hcs]
  rw [squeeze_append, squeeze_append, squeeze_eq_nil hbefore, squeeze_eq_nil hafter,
    List.nil_append, List.append_nil]

theorem squeeze_lineText (cs : List Char) :
    squeeze (Fragment.lineText cs).toList = squeeze cs := by
  rw [← squeeze_trim cs]
  unfold Fragment.lineText
  split
  · next hnil =>
    rw [hnil]
    rfl
  · have hspace : squeeze [' '] = [] := rfl
    rw [String.toList_ofList, squeeze_append, hspace, List.append_nil]

theorem digit_range {c : Char} (h : c.isDigit = true) : 48 ≤ c.toNat ∧ c.toNat ≤ 57 :=
  Char.isDigit_iff_toNat.mp h

theorem toDigits_digit {c : Char} (h : c.isDigit = true) :
    Nat.toDigits 10 (c.toNat - 48) = [c] := by
  have hrange := digit_range h
  have hlt : c.toNat - 48 < 10 := by omega
  rw [Nat.toDigits_of_lt_base hlt, List.singleton_inj, ← Char.toNat_inj,
    Nat.toNat_digitChar_of_lt_ten hlt]
  omega

/-- Digits are the number that they write after any number of zeros. -/
theorem exists_zeros {digits : List Char} (hne : digits ≠ [])
    (h : ∀ c ∈ digits, c.isDigit = true) :
    ∃ zeros, digits = List.replicate zeros '0' ++ Nat.toDigits 10 (InlineTag.rowCount digits) := by
  induction digits using List.reverseRecOn with
  | nil => exact absurd rfl hne
  | append_singleton ds c ih =>
    have hc : c.isDigit = true := h c (by simp)
    have hcount : InlineTag.rowCount (ds ++ [c]) =
        10 * InlineTag.rowCount ds + (c.toNat - 48) := List.foldl_append ..
    cases ds with
    | nil =>
      refine ⟨0, ?_⟩
      rw [hcount]
      show [c] = Nat.toDigits 10 (0 + (c.toNat - 48))
      rw [Nat.zero_add, toDigits_digit hc]
    | cons d ds =>
      have hbefore : ∀ x ∈ d :: ds, x.isDigit = true := fun x hx =>
        h x (List.mem_append_left [c] hx)
      obtain ⟨zeros, hds⟩ := ih (List.cons_ne_nil d ds) hbefore
      rw [hcount]
      rcases Nat.eq_zero_or_pos (InlineTag.rowCount (d :: ds)) with hzero | hpos
      · -- the digits before are all zeros
        rw [hzero, Nat.toDigits_zero] at hds
        refine ⟨zeros + 1, ?_⟩
        rw [hzero, Nat.mul_zero, Nat.zero_add, toDigits_digit hc, List.replicate_succ', ← hds]
      · refine ⟨zeros, ?_⟩
        have hlt : c.toNat - 48 < 10 := by
          have hrange := digit_range hc
          omega
        rw [← Nat.toDigits_append_toDigits (by decide) hpos hlt, toDigits_digit hc,
          ← List.append_assoc, ← hds]

open InlineTag in
/-- What is written for a tag spells its fragment, white space apart. -/
theorem InlineTag.Written.exists_spells {tag : InlineTag} {args rest : List Char} {f : Fragment}
    (h : tag.Written args rest f) :
    ∃ spelling, Spells f spelling ∧ squeeze spelling = squeeze (tag.keyword ++ args) := by
  cases h with
  | @fragment name =>
    refine ⟨_, .inclusion (.fragment (String.ofList name)), ?_⟩
    rw [Target.text, String.toList_ofList, List.append_assoc]
  | @value name =>
    refine ⟨_, .inclusion (.value (String.ofList name)), ?_⟩
    rw [Target.text, String.toList_append, String.toList_ofList, String.toList_ofList,
      List.append_assoc]
    rfl
  | @closedLike body name _ _ _ =>
    refine ⟨_, .like (String.ofList name) (Fragment.lineText body) (Or.inr rfl), ?_⟩
    simp only [squeeze_append, squeeze_lineText, List.append_assoc]
  | @openLike body name =>
    refine ⟨_, .like (String.ofList name) (Fragment.lineText args) (Or.inl rfl), ?_⟩
    simp only [squeeze_append, squeeze_lineText, List.append_nil]
  | @offsetFetch offset limit _ _ _ _ _ hgap hgap' =>
    refine ⟨_, .offsetFetch (String.ofList offset) (String.ofList limit), ?_⟩
    have hspace : Text.isBlank ' ' = true := rfl
    rcases hgap with rfl | rfl <;> rcases hgap' with rfl | rfl <;>
      simp [squeeze, List.filter_cons, hspace]
  | bareOffsetFetch =>
    exact ⟨_, .bareOffsetFetch, by rw [List.append_nil]⟩
  | @fetch limit =>
    refine ⟨_, .fetch (String.ofList limit), ?_⟩
    rw [String.toList_ofList, List.append_assoc]
  | @rows digits _ hne hdigits =>
    obtain ⟨zeros, hzeros⟩ := exists_zeros hne hdigits
    refine ⟨_, .rows zeros (rowCount digits), ?_⟩
    rw [List.append_assoc (keyword .fetch), List.cons_append, ← hzeros, List.append_assoc]
  | bareFetch =>
    exact ⟨_, .bareFetch, by rw [List.append_nil]⟩

namespace Splits

variable {text : List Char} {fs : List Fragment}

theorem ne_nil (h : Splits text fs) (hne : Text.trim text ≠ []) : fs ≠ [] := by
  cases h with
  | blank hblank => exact absurd hblank hne
  | last => exact List.cons_ne_nil _ _
  | tag => simp

/-- What a text is split into can be written down as that text again, white space apart. -/
theorem exists_spellings (h : Splits text fs) :
    ∃ spellings, List.Forall₂ Spells fs spellings ∧ squeeze spellings.flatten = squeeze text := by
  induction h with
  | @blank text hblank =>
    refine ⟨[], .nil, ?_⟩
    rw [← squeeze_trim text, hblank]
    rfl
  | @last text hne =>
    refine ⟨_, .cons (.text _) .nil, ?_⟩
    rw [← lineText_trim hne, List.flatten_cons, List.flatten_nil, List.append_nil,
      squeeze_lineText, squeeze_trim]
  | @tag text before args rest tag f more hcut _ hwritten _ ih =>
    obtain ⟨spelling, hspells, hspelling⟩ := hwritten.exists_spells
    obtain ⟨spellings, hall, hrest⟩ := ih
    have htext : squeeze text =
        squeeze before ++ (squeeze (tag.keyword ++ args) ++ squeeze rest) := by
      rw [← squeeze_trim text, hcut]
      simp only [squeeze_append, List.append_assoc]
    have htail : squeeze (spelling :: spellings).flatten =
        squeeze (tag.keyword ++ args) ++ squeeze rest := by
      rw [List.flatten_cons, squeeze_append, hspelling, hrest]
    cases before with
    | nil => exact ⟨_, .cons hspells hall, by rw [htail, htext]; rfl⟩
    | cons c before =>
      refine ⟨_, .cons (.text _) (.cons hspells hall), ?_⟩
      rw [List.flatten_cons, squeeze_append, htail, htext, String.toList_ofList]

/-- Only the body of a comparison may have an inline tag in its text. -/
theorem keyless (h : Splits text fs) : ∀ t, .text t ∈ fs → Keyless t.toList := by
  induction h with
  | blank =>
    intro t ht
    cases ht
  | last _ _ hlast =>
    intro t ht
    obtain rfl := Fragment.text.inj (List.mem_singleton.mp ht)
    rw [String.toList_ofList]
    exact hlast.append_space
  | @tag _ before _ _ _ f _ _ hbefore hwritten _ ih =>
    intro t ht
    rcases List.mem_append.mp ht with ht | ht
    · cases before with
      | nil => cases ht
      | cons c before =>
        obtain rfl := Fragment.text.inj (List.mem_singleton.mp ht)
        rw [String.toList_ofList]
        exact hbefore
    · rcases List.mem_cons.mp ht with rfl | ht
      · cases hwritten
      · exact ih t ht

end Splits

/-- **Splitting a line loses nothing.** A line with something in it is refused and cannot be split,
or it is read as the fragments that it splits into. These are not none, and written down again they
are the line, white space apart; and no inline tag is left in any text outside of a comparison. -/
theorem Line.content_lossless {line : Line} (hne : line.trimmed ≠ []) :
    (∃ e, line.content = .error e ∧ Refused line e ∧ ∀ fs, ¬ Splits line.chars fs) ∨
      ∃ fs, line.content = .ok fs ∧ fs ≠ [] ∧ Splits line.chars fs ∧
        (∃ spellings, List.Forall₂ Spells fs spellings ∧
          squeeze spellings.flatten = squeeze line.trimmed) ∧
        ∀ t, .text t ∈ fs → Keyless t.toList := by
  cases hread : line.content with
  | error e =>
    refine Or.inl ⟨e, rfl, content_eq_error_iff_refused.mp hread, fun fs hsplits => ?_⟩
    rw [content_eq_ok_iff_splits.mpr hsplits] at hread
    cases hread
  | ok fs =>
    have hsplits := content_eq_ok_iff_splits.mp hread
    obtain ⟨spellings, hall, hsame⟩ := hsplits.exists_spellings
    refine Or.inr ⟨fs, rfl, hsplits.ne_nil hne, hsplits, ⟨spellings, hall, ?_⟩, hsplits.keyless⟩
    rw [hsame]
    exact (squeeze_trim line.chars).symm

/-- Two tags without a space between them, text on either side, and a leading zero. -/
theorem Line.content_lossless_tags :
    let line : Line := ⟨1, "a @LIKE :v @ENDLIKE@FETCH(07) z".toList⟩
    line.trimmed ≠ [] ∧
      line.content = .ok [.text "a ", .block (.like "v") [.text ":v "],
        .offsetFetch none none (some 7), .text "z "] ∧
      ((∃ e, line.content = .error e ∧ Refused line e ∧ ∀ fs, ¬ Splits line.chars fs) ∨
        ∃ fs, line.content = .ok fs ∧ fs ≠ [] ∧ Splits line.chars fs ∧
          (∃ spellings, List.Forall₂ Spells fs spellings ∧
            squeeze spellings.flatten = squeeze line.trimmed) ∧
          ∀ t, .text t ∈ fs → Keyless t.toList) := by
  have hread : (Line.mk 1 "a @LIKE :v @ENDLIKE@FETCH(07) z".toList).content =
      .ok [.text "a ", .block (.like "v") [.text ":v "], .offsetFetch none none (some 7),
        .text "z "] := by
    cbv
  have hne : (Line.mk 1 "a @LIKE :v @ENDLIKE@FETCH(07) z".toList).trimmed ≠ [] := by
    intro hblank
    rw [Line.content_blank hblank] at hread
    cases hread
  exact ⟨hne, hread, Line.content_lossless hne⟩

end SqlTemplate
