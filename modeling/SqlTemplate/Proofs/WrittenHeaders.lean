import SqlTemplate.Proofs.UniqueNames

/-!
# How headers and arguments are written

`BlockTag.Written` lists what may follow the keyword of a block tag, with the head that it makes,
and `ClosedForm.Args` the arguments that an inline tag can have in its parentheses, with what is
captured of them. The readers know of no list: they go from one piece of a form to the next. They
accept **just what is listed, and read back the arguments that were written**.

The only piece that may be missing is the match value of a condition. It begins with a space or an
equals sign, and neither is a word character or a closing parenthesis; so the variable before it
ends where it should, and a match value is there if and only if the parenthesis is not.
-/

set_option autoImplicit false

namespace SqlTemplate

namespace Piece

variable {pieces : List Piece} {text rest written : List Char} {captured : Captures}

/-- A match value as it is written: the word, and the equals sign before it with at most one space
on either side. -/
def IsMatchValue (written word : List Char) : Prop :=
  IsWord word ∧ ∃ gap gap', AtMostOneSpace gap ∧ AtMostOneSpace gap' ∧
    written = gap ++ '=' :: (gap' ++ word)

namespace IsMatchValue

variable {word : List Char}

theorem matchValueText (h : IsMatchValue written word) :
    SqlTemplate.matchValueText written = word := by
  obtain ⟨hword, gap, gap', hgap, hgap', rfl⟩ := h
  exact hword.matchValueText hgap hgap'

/-- A match value is no part of the word before it. -/
theorem head?_append (h : IsMatchValue written word) :
    ∀ c ∈ (written ++ rest).head?, isWordChar c = false := by
  obtain ⟨-, gap, gap', hgap, -, rfl⟩ := h
  rw [List.append_assoc, List.cons_append]
  exact head?_gap_append hgap (by decide)

end IsMatchValue

theorem skipSpace_gap_word {gap word : List Char} (hgap : AtMostOneSpace gap) (h : IsWord word) :
    skipSpace (gap ++ (word ++ rest)) = word ++ rest := by
  obtain ⟨c, cs, rfl⟩ := List.exists_cons_of_ne_nil h.1
  have hc : c ≠ ' ' := by
    rintro rfl
    exact absurd (h.2 ' ' List.mem_cons_self) (by decide)
  exact skipSpace_gap_append hgap hc

/-- A match value goes as far as its word does. -/
theorem matchValue?_eq_some_iff :
    matchValue? text = some (written, rest) ↔
      (∃ word, IsMatchValue written word) ∧ text = written ++ rest ∧
        ∀ c ∈ rest.head?, isWordChar c = false := by
  constructor
  · intro h
    obtain ⟨gap, gap', word, hgap, hgap', hword, hwritten, htext, hrest⟩ := matchValue?_eq_some h
    exact ⟨⟨word, hword, gap, gap', hgap, hgap', hwritten⟩, htext, hrest⟩
  · rintro ⟨⟨word, hword, gap, gap', hgap, hgap', rfl⟩, rfl, hrest⟩
    have hsign : skipSpace (gap ++ '=' :: (gap' ++ word) ++ rest) =
        '=' :: (gap' ++ (word ++ rest)) := by
      rw [List.append_assoc, List.cons_append, List.append_assoc]
      exact skipSpace_gap_append hgap (by decide)
    have hvalue : skipSpace (gap' ++ (word ++ rest)) = word ++ rest :=
      skipSpace_gap_word hgap' hword
    have hrun : run? isWordChar (word ++ rest) = some (word, rest) :=
      run?_eq_some_iff.mpr ⟨hword.1, hword.2, rfl, hrest⟩
    simp only [matchValue?, hsign, hvalue, hrun, Option.map_some, List.length_append,
      Nat.add_sub_cancel]
    rw [← List.length_append, List.take_left']
    rfl

theorem readAll?_reference_iff :
    readAll? (.reference :: pieces) text = some (captured, rest) ↔
      ∃ w after more, IsWord w ∧ text = ':' :: w ++ after ∧
        (∀ c ∈ after.head?, isWordChar c = false) ∧
        readAll? pieces after = some (more, rest) ∧ captured = some (':' :: w) :: more := by
  rw [readAll?_cons_eq_some_iff]
  simp only [read?, Option.map_eq_some_iff, Prod.exists, Prod.mk.injEq, reference?_eq_some_iff]
  constructor
  · rintro ⟨_, _, more, ⟨_, after, ⟨w, hw, rfl, htext, hafter⟩, rfl, rfl⟩, hmore, rfl⟩
    exact ⟨w, after, more, hw, htext, hafter, hmore, rfl⟩
  · rintro ⟨w, after, more, hw, htext, hafter, hmore, rfl⟩
    exact ⟨_, after, more, ⟨_, after, ⟨w, hw, rfl, htext, hafter⟩, rfl, rfl⟩, hmore, rfl⟩

/-- Before a closing parenthesis a match value may be missing. -/
theorem readAll?_matchValue_close_iff :
    readAll? [.matchValue, .exact [')']] text = some (captured, rest) ↔
      (text = ')' :: rest ∧ captured = [none]) ∨
        ∃ written word, IsMatchValue written word ∧ text = written ++ ')' :: rest ∧
          captured = [some written] := by
  rw [readAll?_cons_eq_some_iff]
  simp only [readAll?_close_iff]
  constructor
  · rintro ⟨own, after, _, hread, ⟨rfl, rfl⟩, rfl⟩
    simp only [read?] at hread
    split at hread
    · next hvalue =>
      cases hread
      obtain ⟨⟨word, hword⟩, htext, -⟩ := matchValue?_eq_some_iff.mp hvalue
      exact Or.inr ⟨_, word, hword, htext, rfl⟩
    · cases hread
      exact Or.inl ⟨rfl, rfl⟩
  · rintro (⟨rfl, rfl⟩ | ⟨written, word, hword, rfl, rfl⟩)
    · exact ⟨[none], ')' :: rest, [], rfl, ⟨rfl, rfl⟩, rfl⟩
    · refine ⟨[some written], ')' :: rest, [], ?_, ⟨rfl, rfl⟩, rfl⟩
      have hvalue : matchValue? (written ++ ')' :: rest) = some (written, ')' :: rest) :=
        matchValue?_eq_some_iff.mpr ⟨⟨word, hword⟩, rfl, InlineTag.head?_close (by decide)⟩
      simp only [read?, hvalue]

end Piece

/-! ## The headers of block tags -/

namespace BlockTag

variable {tag : BlockTag} {text after rest : List Char} {captured : Captures} {head : Head}

/-- What stands after the keyword of a tag, up to the end of the line, and the head of the block
that the tag opens. -/
inductive Written : BlockTag → (args : List Char) → Head → Prop where
  | naming {name : List Char} (h : IsWord name) :
      Written .naming ('(' :: name ++ [')']) (.named (String.ofList name))
  | paging {offset fetch gap gap' : List Char} (hoffset : IsWord offset) (hfetch : IsWord fetch)
      (hgap : AtMostOneSpace gap) (hgap' : AtMostOneSpace gap') :
      Written .paging ('(' :: ':' :: offset ++ gap ++ ',' :: gap' ++ ':' :: fetch ++ [')'])
        (.paging (String.ofList offset) (String.ofList fetch))
  | filter : Written .filter [] .filter
  /-- The tags with a condition are written alike, without a match value, … -/
  | present {tag : BlockTag} {kind : TestKind} {name : List Char}
      (hkind : tag.testKind? = some kind) (hname : IsWord name) :
      Written tag ('(' :: ':' :: name ++ [')']) (.test kind ⟨String.ofList name, none⟩)
  /-- … or with one. -/
  | compared {tag : BlockTag} {kind : TestKind} {name value gap gap' : List Char}
      (hkind : tag.testKind? = some kind) (hname : IsWord name) (hvalue : IsWord value)
      (hgap : AtMostOneSpace gap) (hgap' : AtMostOneSpace gap') :
      Written tag ('(' :: ':' :: name ++ gap ++ '=' :: gap' ++ value ++ [')'])
        (.test kind ⟨String.ofList name, some (String.ofList value)⟩)

theorem ofStart?_eq_some_iff : ofStart? text = some tag ↔ tag.keyword <+: text := by
  constructor
  · intro h
    obtain ⟨after, hafter⟩ := Option.isSome_iff_exists.mp (startsWith_of_ofStart? h)
    exact ⟨after, (Text.dropStart?_eq_some_iff.mp hafter).symm⟩
  · rintro ⟨after, rfl⟩
    cases tag <;> rfl

/-! ### Forms -/

theorem readAll?_paging_iff :
    Piece.readAll? (form .paging).pieces after = some (captured, rest) ↔
      ∃ offset fetch gap gap', IsWord offset ∧ IsWord fetch ∧ AtMostOneSpace gap ∧
        AtMostOneSpace gap' ∧
        after = '(' :: ':' :: offset ++ gap ++ ',' :: gap' ++ ':' :: fetch ++ ')' :: rest ∧
        captured = [some offset, some fetch] :=
  InlineTag.readAll?_offsetFetch_iff

theorem readAll?_condition_iff {keyword : List Char} :
    Piece.readAll? (Form.condition keyword).pieces after = some (captured, rest) ↔
      ∃ name, IsWord name ∧
        ((after = '(' :: ':' :: name ++ ')' :: rest ∧ captured = [some (':' :: name), none]) ∨
          ∃ written value, Piece.IsMatchValue written value ∧
            after = '(' :: ':' :: name ++ (written ++ ')' :: rest) ∧
            captured = [some (':' :: name), some written]) := by
  rw [Form.condition, Piece.readAll?_exact_iff]
  simp only [Piece.readAll?_reference_iff, Piece.readAll?_matchValue_close_iff]
  constructor
  · rintro ⟨_, rfl, name, _, _, hname, rfl, -, ⟨rfl, rfl⟩ | ⟨written, value, hvalue, rfl, rfl⟩, rfl⟩
    · exact ⟨name, hname, Or.inl ⟨rfl, rfl⟩⟩
    · exact ⟨name, hname, Or.inr ⟨written, value, hvalue, rfl, rfl⟩⟩
  · rintro ⟨name, hname, ⟨rfl, rfl⟩ | ⟨written, value, hvalue, rfl, rfl⟩⟩
    · exact ⟨_, rfl, name, _, _, hname, rfl, InlineTag.head?_close (by decide),
        Or.inl ⟨rfl, rfl⟩, rfl⟩
    · exact ⟨_, rfl, name, _, _, hname, rfl, hvalue.head?_append,
        Or.inr ⟨written, value, hvalue, rfl, rfl⟩, rfl⟩

theorem form_of_testKind? {kind : TestKind} (h : tag.testKind? = some kind) :
    tag.form = Form.condition tag.keyword := by
  cases tag <;> first | rfl | cases h

theorem head?_of_testKind? {kind : TestKind} (h : tag.testKind? = some kind) (name : List Char)
    (written : Option (List Char)) :
    tag.head? [some (':' :: name), written] =
      some (.test kind ⟨String.ofList name,
        written.map fun v => String.ofList (matchValueText v)⟩) := by
  cases tag <;> cases h <;> rfl

/-! ### Heads -/

/-- What the pieces of the form capture between the keyword and the end makes the head. -/
theorem readHead?_eq_some_iff_readAll? :
    tag.readHead? text = some head ↔
      ∃ after captured, text = tag.keyword ++ after ∧
        Piece.readAll? tag.form.pieces after = some (captured, []) ∧
        tag.head? captured = some head := by
  have hkeyword : tag.form.keyword = tag.keyword := by cases tag <;> rfl
  rw [readHead?, Option.bind_eq_some_iff]
  simp only [Form.full?_eq_some_iff tag.trailing_form, hkeyword]
  constructor
  · rintro ⟨captured, ⟨after, htext, hread⟩, hhead⟩
    exact ⟨after, captured, htext, hread, hhead⟩
  · rintro ⟨after, captured, htext, hread, hhead⟩
    exact ⟨captured, ⟨after, htext, hread⟩, hhead⟩

/-- What is captured makes the head that is written. -/
theorem written_of_readAll? (hread : Piece.readAll? tag.form.pieces after = some (captured, []))
    (hhead : tag.head? captured = some head) : tag.Written after head := by
  -- the tags with a condition differ in nothing but the keyword and the kind of test
  have hcondition : ∀ kind, tag.testKind? = some kind → tag.Written after head := by
    intro kind hkind
    rw [form_of_testKind? hkind] at hread
    obtain ⟨name, hname, ⟨rfl, rfl⟩ | ⟨written, value, hvalue, rfl, rfl⟩⟩ :=
      readAll?_condition_iff.mp hread
    · rw [head?_of_testKind? hkind] at hhead
      cases hhead
      exact .present hkind hname
    · rw [head?_of_testKind? hkind, Option.map_some, hvalue.matchValueText] at hhead
      cases hhead
      obtain ⟨hword, gap, gap', hgap, hgap', rfl⟩ := hvalue
      have h := Written.compared hkind hname hword hgap hgap'
      simpa only [List.append_assoc, List.cons_append] using h
  cases tag with
  | naming =>
    obtain ⟨name, hname, rfl, rfl⟩ := readAll?_naming_iff.mp hread
    cases hhead
    exact .naming hname
  | paging =>
    obtain ⟨offset, fetch, gap, gap', hoffset, hfetch, hgap, hgap', rfl, rfl⟩ :=
      readAll?_paging_iff.mp hread
    cases hhead
    exact .paging hoffset hfetch hgap hgap'
  | filter =>
    cases hread
    cases hhead
    exact .filter
  | conjunct | disjunct | guard => exact hcondition _ rfl

/-- What is written is captured, and makes its head. -/
theorem Written.readAll? (h : tag.Written after head) :
    ∃ captured, Piece.readAll? tag.form.pieces after = some (captured, []) ∧
      tag.head? captured = some head := by
  cases h with
  | naming hname => exact ⟨_, readAll?_naming_iff.mpr ⟨_, hname, rfl, rfl⟩, rfl⟩
  | paging hoffset hfetch hgap hgap' =>
    exact ⟨_, readAll?_paging_iff.mpr
      ⟨_, _, _, _, hoffset, hfetch, hgap, hgap', rfl, rfl⟩, rfl⟩
  | filter => exact ⟨[], rfl, rfl⟩
  | @present _ _ name hkind hname =>
    refine ⟨[some (':' :: name), none], ?_, head?_of_testKind? hkind _ _⟩
    rw [form_of_testKind? hkind]
    exact readAll?_condition_iff.mpr ⟨name, hname, Or.inl ⟨rfl, rfl⟩⟩
  | @compared _ _ name value gap gap' hkind hname hvalue hgap hgap' =>
    have hmatch : Piece.IsMatchValue (gap ++ '=' :: (gap' ++ value)) value :=
      ⟨hvalue, gap, gap', hgap, hgap', rfl⟩
    refine ⟨[some (':' :: name), some (gap ++ '=' :: (gap' ++ value))], ?_, ?_⟩
    · rw [form_of_testKind? hkind]
      exact readAll?_condition_iff.mpr ⟨name, hname, Or.inr ⟨_, value, hmatch, by simp, rfl⟩⟩
    · rw [head?_of_testKind? hkind, Option.map_some, hmatch.matchValueText]

theorem readHead?_eq_some_iff :
    tag.readHead? text = some head ↔
      ∃ args, text = tag.keyword ++ args ∧ tag.Written args head := by
  rw [readHead?_eq_some_iff_readAll?]
  constructor
  · rintro ⟨after, captured, htext, hread, hhead⟩
    exact ⟨after, htext, written_of_readAll? hread hhead⟩
  · rintro ⟨args, htext, hwritten⟩
    obtain ⟨captured, hread, hhead⟩ := hwritten.readAll?
    exact ⟨args, captured, htext, hread, hhead⟩

theorem readHead?_eq_none_iff :
    tag.readHead? text = none ↔
      ∀ args, text = tag.keyword ++ args → ∀ head, ¬ tag.Written args head := by
  rw [Option.eq_none_iff_forall_ne_some]
  simp only [ne_eq, readHead?_eq_some_iff]
  constructor
  · intro h args htext head hwritten
    exact h head ⟨args, htext, hwritten⟩
  · rintro h head ⟨args, htext, hwritten⟩
    exact h args htext head hwritten

/-! ### Lines -/

theorem opens_iff {line : Line} :
    ofStart? line.trimmed = some tag ∧ tag.readHead line = .ok head ↔
      ∃ args, line.trimmed = tag.keyword ++ args ∧ tag.Written args head := by
  rw [ofStart?_eq_some_iff, Outline.readHead_eq_ok_iff, readHead?_eq_some_iff]
  constructor
  · rintro ⟨-, hwritten⟩
    exact hwritten
  · rintro ⟨args, htext, hwritten⟩
    exact ⟨⟨args, htext.symm⟩, args, htext, hwritten⟩

theorem refuses_iff {line : Line} {e : FormatError} :
    ofStart? line.trimmed = some tag ∧ tag.readHead line = .error e ↔
      ∃ args, line.trimmed = tag.keyword ++ args ∧ (∀ head, ¬ tag.Written args head) ∧
        e = ⟨.malformed tag.keyword, line⟩ := by
  rw [ofStart?_eq_some_iff, readHead_eq_error_iff, readHead?_eq_none_iff]
  constructor
  · rintro ⟨⟨args, htext⟩, hnone, he⟩
    exact ⟨args, htext.symm, hnone args htext.symm, he⟩
  · rintro ⟨args, htext, hnone, he⟩
    refine ⟨⟨args, htext.symm⟩, fun args' htext' => ?_, he⟩
    rw [← List.append_cancel_left (htext.symm.trans htext')]
    exact hnone

end BlockTag

/-! ## The closed forms of inline tags -/

/-- A form that anything may follow makes up every text that begins with it, and what follows is
captured last. -/
theorem Form.full?_eq_some_iff_of_trailing {form : Form} (htrailing : form.trailing = true)
    {text : List Char} {captured : Captures} :
    form.full? text = some captured ↔
      ∃ after own rest, text = form.keyword ++ after ∧
        Piece.readAll? form.pieces after = some (own, rest) ∧ captured = own ++ [some rest] := by
  simp only [full?, read?, htrailing, ← Text.dropStart?_eq_some_iff]
  cases Text.dropStart? form.keyword text with
  | none => simp
  | some after =>
    simp only [Option.some.injEq, exists_and_left, exists_eq_left']
    cases Piece.readAll? form.pieces after with
    | none => simp
    | some read =>
      obtain ⟨own, rest⟩ := read
      simp [eq_comm]

/-- The forms of inline tags with parentheses. -/
inductive ClosedForm where
  | inclusion
  | offsetFetch
  | fetchVariable
  | fetchRows

namespace ClosedForm

/-- The form with its keyword. -/
def form : ClosedForm → Form
  | .inclusion => InlineTag.inclusionForm
  | .offsetFetch => InlineTag.offsetFetchForm
  | .fetchVariable => InlineTag.fetchVariableForm
  | .fetchRows => InlineTag.fetchRowsForm

/-- What stands between the parentheses, and what is captured of it. -/
inductive Args : ClosedForm → List Char → Captures → Prop where
  | inclusion {target : List Char} (h : Piece.IsTarget target) :
      Args .inclusion target [some target]
  | offsetFetch {offset limit gap gap' : List Char} (hoffset : IsWord offset)
      (hlimit : IsWord limit) (hgap : AtMostOneSpace gap) (hgap' : AtMostOneSpace gap') :
      Args .offsetFetch (':' :: offset ++ gap ++ ',' :: gap' ++ ':' :: limit)
        [some offset, some limit]
  | fetchVariable {limit : List Char} (h : IsWord limit) :
      Args .fetchVariable (':' :: limit) [some limit]
  | fetchRows {digits : List Char} (hne : digits ≠ []) (h : ∀ c ∈ digits, c.isDigit = true) :
      Args .fetchRows digits [some digits]

variable {which : ClosedForm} {text after rest : List Char} {captured : Captures}

theorem readAll?_form_iff :
    Piece.readAll? which.form.pieces after = some (captured, rest) ↔
      ∃ args, after = '(' :: args ++ ')' :: rest ∧ which.Args args captured := by
  constructor
  · intro h
    cases which with
    | inclusion =>
      obtain ⟨target, htarget, rfl, rfl⟩ := InlineTag.readAll?_inclusion_iff.mp h
      exact ⟨target, rfl, .inclusion htarget⟩
    | offsetFetch =>
      obtain ⟨offset, limit, gap, gap', hoffset, hlimit, hgap, hgap', rfl, rfl⟩ :=
        InlineTag.readAll?_offsetFetch_iff.mp h
      exact ⟨_, rfl, .offsetFetch hoffset hlimit hgap hgap'⟩
    | fetchVariable =>
      obtain ⟨limit, hlimit, rfl, rfl⟩ := InlineTag.readAll?_fetchVariable_iff.mp h
      exact ⟨_, rfl, .fetchVariable hlimit⟩
    | fetchRows =>
      obtain ⟨digits, ⟨hne, hdigits⟩, rfl, rfl⟩ := InlineTag.readAll?_fetchRows_iff.mp h
      exact ⟨digits, rfl, .fetchRows hne hdigits⟩
  · rintro ⟨args, rfl, hargs⟩
    cases hargs with
    | inclusion htarget => exact InlineTag.readAll?_inclusion_iff.mpr ⟨_, htarget, rfl, rfl⟩
    | offsetFetch hoffset hlimit hgap hgap' =>
      exact InlineTag.readAll?_offsetFetch_iff.mpr
        ⟨_, _, _, _, hoffset, hlimit, hgap, hgap', rfl, rfl⟩
    | fetchVariable hlimit =>
      exact InlineTag.readAll?_fetchVariable_iff.mpr ⟨_, hlimit, rfl, rfl⟩
    | fetchRows hne hdigits =>
      exact InlineTag.readAll?_fetchRows_iff.mpr ⟨_, ⟨hne, hdigits⟩, rfl, rfl⟩

theorem full?_eq_some_iff :
    which.form.full? text = some captured ↔
      ∃ args own rest, text = which.form.keyword ++ '(' :: args ++ ')' :: rest ∧
        which.Args args own ∧ captured = own ++ [some rest] := by
  have htrailing : which.form.trailing = true := by cases which <;> rfl
  rw [Form.full?_eq_some_iff_of_trailing htrailing]
  simp only [readAll?_form_iff]
  constructor
  · rintro ⟨_, own, rest, rfl, ⟨args, rfl, hargs⟩, hcaptured⟩
    exact ⟨args, own, rest, by simp, hargs, hcaptured⟩
  · rintro ⟨args, own, rest, rfl, hargs, hcaptured⟩
    exact ⟨'(' :: args ++ ')' :: rest, own, rest, by simp, ⟨args, rfl, hargs⟩, hcaptured⟩

example : (form .inclusion).full? "@INCLUDE(:a)(b)\n@FETCH".toList =
    some [some ":a".toList, some "(b)\n@FETCH".toList] := by cbv

end ClosedForm

/-! ## Reading what is written -/

namespace InlineTag

variable {tag : InlineTag} {text rest : List Char} {f : Fragment}

theorem read?_ofStart?_iff :
    (∃ after, ofStart? text = some (tag, after) ∧ tag.read? after = some (f, rest)) ↔
      ∃ args, text = tag.keyword ++ args ++ rest ∧ tag.Written args rest f := by
  simp only [ofStart?_eq_some_iff, read?_eq_some_iff]
  constructor
  · rintro ⟨_, rfl, args, rfl, hwritten⟩
    exact ⟨args, by rw [List.append_assoc], hwritten⟩
  · rintro ⟨args, rfl, hwritten⟩
    exact ⟨args ++ rest, by rw [List.append_assoc], args, rfl, hwritten⟩

theorem rowCount_toDigits (n : Nat) : rowCount (Nat.toDigits 10 n) = n :=
  Nat.ofDigitChars_toDigits (by decide) (by decide)

/-- A number of rows is read back from its decimal digits. -/
theorem read?_fetch_toDigits (n : Nat) :
    read? .fetch ('(' :: Nat.toDigits 10 n ++ ')' :: rest) =
      some (.offsetFetch none none (some n), rest) := by
  have hdigits : ∀ c ∈ Nat.toDigits 10 n, c.isDigit = true := fun c hc =>
    Nat.isDigit_of_mem_toDigits (by decide) (by decide) hc
  have hwritten : Written .fetch ('(' :: Nat.toDigits 10 n ++ [')']) rest
      (.offsetFetch none none (some (rowCount (Nat.toDigits 10 n)))) :=
    .rows Nat.toDigits_ne_nil hdigits
  rw [rowCount_toDigits] at hwritten
  exact read?_eq_some_iff.mpr ⟨_, by simp, hwritten⟩

end InlineTag

/-- **Tags are read as they are written.** The head of a block is read from just what is written for
it after the keyword of a block tag. So a line that begins with such a keyword either is one of the
headers of that tag, and opens the block that it stands for, or it is refused. A closed form of an
inline tag makes up just the texts that are its keyword, its arguments in parentheses and then
anything at all, and captures the arguments and what comes after them; and a text that begins with
an inline tag is read as the fragment that is written there, and the text after it. What is captured
of a number of rows is its digits, and they are read back as the number. -/
theorem tags_read_as_written :
    (∀ (tag : BlockTag) (text : List Char) (head : Head),
      tag.readHead? text = some head ↔
        ∃ args, text = tag.keyword ++ args ∧ tag.Written args head) ∧
    (∀ (tag : BlockTag) (line : Line) (head : Head),
      BlockTag.ofStart? line.trimmed = some tag ∧ tag.readHead line = .ok head ↔
        ∃ args, line.trimmed = tag.keyword ++ args ∧ tag.Written args head) ∧
    (∀ (tag : BlockTag) (line : Line) (e : FormatError),
      BlockTag.ofStart? line.trimmed = some tag ∧ tag.readHead line = .error e ↔
        ∃ args, line.trimmed = tag.keyword ++ args ∧ (∀ head, ¬ tag.Written args head) ∧
          e = ⟨.malformed tag.keyword, line⟩) ∧
    (∀ (which : ClosedForm) (text : List Char) (captured : Captures),
      which.form.full? text = some captured ↔
        ∃ args own rest, text = which.form.keyword ++ '(' :: args ++ ')' :: rest ∧
          which.Args args own ∧ captured = own ++ [some rest]) ∧
    (∀ (tag : InlineTag) (text rest : List Char) (f : Fragment),
      (∃ after, InlineTag.ofStart? text = some (tag, after) ∧
        tag.read? after = some (f, rest)) ↔
        ∃ args, text = tag.keyword ++ args ++ rest ∧ tag.Written args rest f) ∧
    ∀ (n : Nat) (rest : List Char),
      InlineTag.read? .fetch ('(' :: Nat.toDigits 10 n ++ ')' :: rest) =
        some (.offsetFetch none none (some n), rest) :=
  ⟨fun _ _ _ => BlockTag.readHead?_eq_some_iff, fun _ _ _ => BlockTag.opens_iff,
    fun _ _ _ => BlockTag.refuses_iff, fun _ _ _ => ClosedForm.full?_eq_some_iff,
    fun _ _ _ _ => InlineTag.read?_ofStart?_iff, fun n _ => InlineTag.read?_fetch_toDigits n⟩

end SqlTemplate
