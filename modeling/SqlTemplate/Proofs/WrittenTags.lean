import SqlTemplate.Proofs.Captures
import SqlTemplate.Proofs.FirstOccurrence
import SqlTemplate.Template.Content

/-!
# How inline tags are written

After its keyword an inline tag has its arguments, and after these comes the rest of the line.
`InlineTag.Written` lists the ways: what is written, and the fragment that it makes. Reading a tag
succeeds on just what is written in one of these ways, with that fragment and that rest. A piece of
a form ends where its characters end, and in no form can the next piece begin with one of them, so
that **nothing but the written form decides where an argument ends**.
-/

set_option autoImplicit false

namespace SqlTemplate

/-- At most one space. -/
def AtMostOneSpace (gap : List Char) : Prop := gap = [] ∨ gap = [' ']

namespace Piece

variable {piece : Piece} {pieces : List Piece} {text rest : List Char} {captured : Captures}

theorem run?_eq_some_iff {p : Char → Bool} {run : List Char} :
    run? p text = some (run, rest) ↔
      run ≠ [] ∧ (∀ c ∈ run, p c = true) ∧ text = run ++ rest ∧ ∀ c ∈ rest.head?, p c = false := by
  constructor
  · exact run?_eq_some
  · rintro ⟨hne, hrun, rfl, hrest⟩
    have htake : rest.takeWhile p = [] := by
      cases rest with
      | nil => rfl
      | cons c rest => simp [hrest c rfl]
    have hdrop : rest.dropWhile p = rest := by
      cases rest with
      | nil => rfl
      | cons c rest => simp [hrest c rfl]
    unfold run?
    rw [List.takeWhile_append_of_pos hrun, List.dropWhile_append_of_pos hrun, htake, hdrop,
      List.append_nil]
    cases run with
    | nil => exact absurd rfl hne
    | cons c run => rfl

theorem readAll?_cons_eq_some_iff :
    readAll? (piece :: pieces) text = some (captured, rest) ↔
      ∃ own after more, piece.read? text = some (own, after) ∧
        readAll? pieces after = some (more, rest) ∧ captured = own ++ more := by
  rw [readAll?]
  cases hread : piece.read? text with
  | none => simp
  | some read =>
    obtain ⟨own, after⟩ := read
    simp only [Option.map_eq_some_iff, Prod.exists, Prod.mk.injEq, Option.some.injEq]
    constructor
    · rintro ⟨more, _, hmore, rfl, rfl⟩
      exact ⟨own, after, more, ⟨rfl, rfl⟩, hmore, rfl⟩
    · rintro ⟨_, _, more, ⟨rfl, rfl⟩, hmore, rfl⟩
      exact ⟨more, rest, hmore, rfl, rfl⟩

/-! ## The first piece of several -/

theorem readAll?_exact_iff {start : List Char} :
    readAll? (.exact start :: pieces) text = some (captured, rest) ↔
      ∃ after, text = start ++ after ∧ readAll? pieces after = some (captured, rest) := by
  rw [readAll?_cons_eq_some_iff]
  simp only [read?, Option.map_eq_some_iff, Text.dropStart?_eq_some_iff, Prod.mk.injEq]
  constructor
  · rintro ⟨_, _, more, ⟨after, htext, rfl, rfl⟩, hmore, rfl⟩
    exact ⟨after, htext, hmore⟩
  · rintro ⟨after, htext, hmore⟩
    exact ⟨[], after, captured, ⟨after, htext, rfl, rfl⟩, hmore, rfl⟩

theorem readAll?_close_iff {close : List Char} :
    readAll? [.exact close] text = some (captured, rest) ↔
      text = close ++ rest ∧ captured = [] := by
  rw [readAll?_exact_iff]
  simp only [readAll?, Option.some.injEq, Prod.mk.injEq]
  constructor
  · rintro ⟨_, htext, rfl, rfl⟩
    exact ⟨htext, rfl⟩
  · rintro ⟨htext, rfl⟩
    exact ⟨rest, htext, rfl, rfl⟩

/-- A piece that captures a run goes as far as the run does. -/
theorem readAll?_run_iff (p : Char → Bool)
    (hpiece : ∀ text, piece.read? text = (run? p text).map fun (w, rest) => ([some w], rest)) :
    readAll? (piece :: pieces) text = some (captured, rest) ↔
      ∃ w after more, (w ≠ [] ∧ ∀ c ∈ w, p c = true) ∧ text = w ++ after ∧
        (∀ c ∈ after.head?, p c = false) ∧ readAll? pieces after = some (more, rest) ∧
        captured = some w :: more := by
  rw [readAll?_cons_eq_some_iff]
  simp only [hpiece, Option.map_eq_some_iff, Prod.exists, Prod.mk.injEq, run?_eq_some_iff]
  constructor
  · rintro ⟨_, _, more, ⟨w, after, ⟨hne, hw, htext, hafter⟩, rfl, rfl⟩, hmore, rfl⟩
    exact ⟨w, after, more, ⟨hne, hw⟩, htext, hafter, hmore, rfl⟩
  · rintro ⟨w, after, more, ⟨hne, hw⟩, htext, hafter, hmore, rfl⟩
    exact ⟨[some w], after, more, ⟨w, after, ⟨hne, hw, htext, hafter⟩, rfl, rfl⟩, hmore, rfl⟩

theorem readAll?_word_iff :
    readAll? (.word :: pieces) text = some (captured, rest) ↔
      ∃ w after more, IsWord w ∧ text = w ++ after ∧ (∀ c ∈ after.head?, isWordChar c = false) ∧
        readAll? pieces after = some (more, rest) ∧ captured = some w :: more :=
  readAll?_run_iff isWordChar fun _ => rfl

theorem readAll?_digits_iff :
    readAll? (.digits :: pieces) text = some (captured, rest) ↔
      ∃ digits after more, (digits ≠ [] ∧ ∀ c ∈ digits, c.isDigit = true) ∧
        text = digits ++ after ∧ (∀ c ∈ after.head?, c.isDigit = false) ∧
        readAll? pieces after = some (more, rest) ∧ captured = some digits :: more :=
  readAll?_run_iff Char.isDigit fun _ => rfl

theorem skipSpace_gap_append {gap : List Char} (hgap : AtMostOneSpace gap) {c : Char}
    (hc : c ≠ ' ') : skipSpace (gap ++ c :: text) = c :: text := by
  have hself : skipSpace (c :: text) = c :: text := by
    unfold skipSpace
    split
    · next heq =>
      cases heq
      exact absurd rfl hc
    · rfl
  rcases hgap with rfl | rfl
  · exact hself
  · rfl

/-- A word ends before a character that is none of a word's, and before a space. -/
theorem head?_gap_append {gap : List Char} (hgap : AtMostOneSpace gap) {c : Char}
    (hc : isWordChar c = false) : ∀ d ∈ (gap ++ c :: text).head?, isWordChar d = false := by
  intro d hd
  rcases hgap with rfl | rfl <;> cases hd
  · exact hc
  · decide

/-- A comma and the colon after it, each with at most one space before it. -/
theorem readAll?_comma_iff :
    readAll? (.comma :: .exact [':'] :: pieces) text = some (captured, rest) ↔
      ∃ gap gap' after, AtMostOneSpace gap ∧ AtMostOneSpace gap' ∧
        text = gap ++ ',' :: (gap' ++ ':' :: after) ∧
        readAll? pieces after = some (captured, rest) := by
  rw [readAll?_cons_eq_some_iff]
  simp only [readAll?_exact_iff]
  constructor
  · rintro ⟨own, _, more, hread, ⟨after, rfl, hmore⟩, rfl⟩
    obtain ⟨gap, hgap, htext⟩ := skipSpace_eq text
    simp only [read?] at hread
    split at hread
    · next afterComma hcomma =>
      obtain ⟨gap', hgap', hafter⟩ := skipSpace_eq afterComma
      obtain ⟨rfl, hcolon⟩ := Prod.mk.inj (Option.some.inj hread)
      refine ⟨gap, gap', after, hgap, hgap', ?_, hmore⟩
      rw [htext, hcomma, hafter, hcolon]
      rfl
    · cases hread
  · rintro ⟨gap, gap', after, hgap, hgap', rfl, hmore⟩
    refine ⟨[], ':' :: after, captured, ?_, ⟨after, rfl, hmore⟩, rfl⟩
    simp only [read?, skipSpace_gap_append hgap (by decide : ',' ≠ ' '),
      skipSpace_gap_append hgap' (by decide : ':' ≠ ' ')]

theorem reference?_eq_some_iff {v : List Char} :
    reference? text = some (v, rest) ↔
      ∃ w, IsWord w ∧ v = ':' :: w ∧ text = v ++ rest ∧ ∀ c ∈ rest.head?, isWordChar c = false := by
  constructor
  · intro h
    unfold reference? at h
    split at h
    · obtain ⟨⟨w, _⟩, hrun, hpair⟩ := Option.map_eq_some_iff.mp h
      cases hpair
      obtain ⟨hne, hw, rfl, hrest⟩ := run?_eq_some_iff.mp hrun
      exact ⟨w, ⟨hne, hw⟩, rfl, rfl, hrest⟩
    · cases h
  · rintro ⟨w, ⟨hne, hw⟩, rfl, rfl, hrest⟩
    show (run? isWordChar (w ++ rest)).map _ = _
    rw [run?_eq_some_iff.mpr ⟨hne, hw, rfl, hrest⟩]
    rfl

/-- A word, or a colon and a word. -/
def IsTarget (t : List Char) : Prop := IsWord t ∨ ∃ w, IsWord w ∧ t = ':' :: w

/-- A reference goes as far as its word does. -/
theorem read?_target_iff {own : Captures} :
    Piece.target.read? text = some (own, rest) ↔
      ∃ t, IsTarget t ∧ text = t ++ rest ∧ (∀ c ∈ rest.head?, isWordChar c = false) ∧
        own = [some t] := by
  simp only [read?, Option.map_eq_some_iff, Prod.exists, Prod.mk.injEq, Option.or_eq_some_iff]
  constructor
  · rintro ⟨t, _, href | ⟨-, hrun⟩, rfl, rfl⟩
    · obtain ⟨w, hw, rfl, htext, hrest⟩ := reference?_eq_some_iff.mp href
      exact ⟨_, Or.inr ⟨w, hw, rfl⟩, htext, hrest, rfl⟩
    · obtain ⟨hne, hw, htext, hrest⟩ := run?_eq_some_iff.mp hrun
      exact ⟨t, Or.inl ⟨hne, hw⟩, htext, hrest, rfl⟩
  · rintro ⟨t, hword | ⟨w, hw, rfl⟩, htext, hrest, rfl⟩
    · refine ⟨t, rest, Or.inr ⟨?_, run?_eq_some_iff.mpr ⟨hword.1, hword.2, htext, hrest⟩⟩, rfl, rfl⟩
      -- a word does not begin with a colon
      cases href : reference? text with
      | none => rfl
      | some read =>
        obtain ⟨w, -, hv, hcolon, -⟩ := reference?_eq_some_iff.mp href
        obtain ⟨c, t, rfl⟩ := List.exists_cons_of_ne_nil hword.1
        rw [htext, hv] at hcolon
        obtain ⟨rfl, -⟩ := List.cons.inj hcolon
        exact absurd (hword.2 ':' List.mem_cons_self) (by decide)
    · exact ⟨_, rest, Or.inl (reference?_eq_some_iff.mpr ⟨w, hw, rfl, htext, hrest⟩), rfl, rfl⟩

theorem readAll?_target_iff :
    readAll? (.target :: pieces) text = some (captured, rest) ↔
      ∃ t after more, IsTarget t ∧ text = t ++ after ∧ (∀ c ∈ after.head?, isWordChar c = false) ∧
        readAll? pieces after = some (more, rest) ∧ captured = some t :: more := by
  rw [readAll?_cons_eq_some_iff]
  simp only [read?_target_iff]
  constructor
  · rintro ⟨_, after, more, ⟨t, ht, htext, hafter, rfl⟩, hmore, rfl⟩
    exact ⟨t, after, more, ht, htext, hafter, hmore, rfl⟩
  · rintro ⟨t, after, more, ht, htext, hafter, hmore, rfl⟩
    exact ⟨[some t], after, more, ⟨t, ht, htext, hafter, rfl⟩, hmore, rfl⟩

end Piece

/-! ## The variable of a comparison -/

/-- The first variable named in a text: the word at the first colon that a word follows. -/
inductive FirstVariable : List Char → List Char → Prop where
  | here {v after : List Char} (hv : IsWord v) (hafter : ∀ c ∈ after.head?, isWordChar c = false) :
      FirstVariable (':' :: (v ++ after)) v
  | later {c : Char} {text v : List Char}
      (hnone : c = ':' → ∀ d ∈ text.head?, isWordChar d = false) (h : FirstVariable text v) :
      FirstVariable (c :: text) v

namespace FirstVariable

theorem isWord {text v : List Char} (h : FirstVariable text v) : IsWord v := by
  induction h with
  | here hv _ => exact hv
  | later _ _ ih => exact ih

theorem read?_variableForm (c : Char) (text : List Char) :
    InlineTag.variableForm.read? (c :: text) =
      if c = ':' then (Piece.run? isWordChar text).map fun (w, rest) => ([some w], rest)
      else none := by
  unfold Form.read? InlineTag.variableForm
  by_cases hc : c = ':'
  · subst hc
    simp only [Text.dropStart?, if_true, Piece.readAll?, Piece.read?]
    cases Piece.run? isWordChar text <;> rfl
  · simp [Text.dropStart?, hc, Ne.symm hc]

theorem exists_of_search? {text : List Char} {found : Form.Found}
    (h : InlineTag.variableForm.search? text = some found) :
    ∃ v, found.captured = [some v] ∧ FirstVariable text v := by
  induction text generalizing found with
  | nil => cases h
  | cons c text ih =>
    rw [Form.search?, read?_variableForm] at h
    by_cases hc : c = ':' ∧ ∃ read, Piece.run? isWordChar text = some read
    · obtain ⟨rfl, ⟨w, rest⟩, hrun⟩ := hc
      rw [if_pos rfl, hrun] at h
      cases h
      obtain ⟨hne, hword, htext, hafter⟩ := Piece.run?_eq_some hrun
      refine ⟨w, rfl, ?_⟩
      rw [htext]
      exact .here ⟨hne, hword⟩ hafter
    · -- no variable begins here, so the first one is that of the rest
      have hnone : c = ':' → Piece.run? isWordChar text = none := by
        intro hcolon
        cases hrun : Piece.run? isWordChar text with
        | none => rfl
        | some read => exact absurd ⟨hcolon, read, hrun⟩ hc
      have hread : (if c = ':' then (Piece.run? isWordChar text).map fun (w, rest) =>
          (([some w], rest) : Captures × List Char) else none) = none := by
        split
        · next hcolon => rw [hnone hcolon]; rfl
        · rfl
      rw [hread] at h
      obtain ⟨found', hfound, rfl⟩ := Option.map_eq_some_iff.mp h
      obtain ⟨v, hv, hfirst⟩ := ih hfound
      exact ⟨v, hv, .later (fun hcolon => Piece.head?_of_run?_eq_none (hnone hcolon)) hfirst⟩

theorem search?_of {text v : List Char} (h : FirstVariable text v) :
    ∃ found, InlineTag.variableForm.search? text = some found ∧ found.captured = [some v] := by
  induction h with
  | @here v after hv hafter =>
    have hrun : Piece.run? isWordChar (v ++ after) = some (v, after) :=
      Piece.run?_eq_some_iff.mpr ⟨hv.1, hv.2, rfl, hafter⟩
    rw [Form.search?, read?_variableForm, if_pos rfl, hrun]
    exact ⟨_, rfl, rfl⟩
  | @later c text v hnone h ih =>
    obtain ⟨found, hfound, hcaptured⟩ := ih
    have hread : InlineTag.variableForm.read? (c :: text) = none := by
      rw [read?_variableForm]
      split
      · next hcolon =>
        cases hrun : Piece.run? isWordChar text with
        | none => rfl
        | some read =>
          obtain ⟨hne, hw, htext, -⟩ := Piece.run?_eq_some hrun
          obtain ⟨d, w, hd⟩ := List.exists_cons_of_ne_nil hne
          have hhead := hnone hcolon d (by rw [htext, hd]; rfl)
          rw [hw d (by rw [hd]; exact List.mem_cons_self)] at hhead
          cases hhead
      · rfl
    rw [Form.search?, hread, hfound]
    exact ⟨_, rfl, hcaptured⟩

end FirstVariable

/-! ## The tags -/

namespace InlineTag

/-- What stands between the keyword of a tag and `rest`, and the fragment that the tag makes. -/
inductive Written : InlineTag → (args rest : List Char) → Fragment → Prop where
  | fragment {name rest : List Char} (h : IsWord name) :
      Written .inclusion ('(' :: name ++ [')']) rest
        (.inclusion (.fragment (String.ofList name)))
  | value {name rest : List Char} (h : IsWord name) :
      Written .inclusion ('(' :: ':' :: name ++ [')']) rest
        (.inclusion (.value (String.ofList name)))
  /-- The body of a comparison goes up to the first word that closes one, … -/
  | closedLike {body name rest : List Char} (hbody : ¬ endLike <:+: body)
      (hname : FirstVariable body name) :
      Written .like (body ++ endLike) rest
        (.block (.like (String.ofList name)) [.text (Fragment.lineText body)])
  /-- … or to the end of the line if there is none. -/
  | openLike {body name : List Char} (hbody : ¬ endLike <:+: body)
      (hname : FirstVariable body name) :
      Written .like body [] (.block (.like (String.ofList name)) [.text (Fragment.lineText body)])
  | offsetFetch {offset limit gap gap' rest : List Char} (hoffset : IsWord offset)
      (hlimit : IsWord limit) (hgap : AtMostOneSpace gap) (hgap' : AtMostOneSpace gap') :
      Written .offsetFetch ('(' :: ':' :: offset ++ gap ++ ',' :: gap' ++ ':' :: limit ++ [')'])
        rest (.offsetFetch (some (String.ofList offset)) (some (String.ofList limit)) none)
  | bareOffsetFetch {rest : List Char} (h : rest.head? ≠ some '(') :
      Written .offsetFetch [] rest (.offsetFetch (some defaultOffset) (some defaultFetch) none)
  | fetch {limit rest : List Char} (h : IsWord limit) :
      Written .fetch ('(' :: ':' :: limit ++ [')']) rest
        (.offsetFetch none (some (String.ofList limit)) none)
  | rows {digits rest : List Char} (hne : digits ≠ []) (h : ∀ c ∈ digits, c.isDigit = true) :
      Written .fetch ('(' :: digits ++ [')']) rest (.offsetFetch none none (some (rowCount digits)))
  | bareFetch {rest : List Char} (h : rest.head? ≠ some '(') :
      Written .fetch [] rest (.offsetFetch none (some defaultFetch) none)

variable {after rest : List Char} {f : Fragment}

theorem splitFirst?_endLike_eq_none_iff :
    Text.splitFirst? endLike after = none ↔ ¬ endLike <:+: after :=
  Text.splitFirst?_eq_none_iff (by decide)

theorem splitFirst?_endLike_eq_some_iff {body : List Char} :
    Text.splitFirst? endLike after = some (body, rest) ↔
      after = body ++ endLike ++ rest ∧ ¬ endLike <:+: body :=
  Text.splitFirst?_eq_some_iff (by decide)

theorem startsWith_paren : Text.startsWith ['('] after = true ↔ after.head? = some '(' := by
  cases after with
  | nil => simp [Text.startsWith, Text.dropStart?]
  | cons c after =>
    by_cases hc : '(' = c
    · simp [Text.startsWith, Text.dropStart?, ← hc]
    · simp [Text.startsWith, Text.dropStart?, hc, Ne.symm hc]

/-- The closing parenthesis is no character of a word or a number. -/
theorem head?_close {p : Char → Bool} (hp : p ')' = false) :
    ∀ c ∈ (')' :: rest).head?, p c = false := by
  intro c hc
  cases hc
  exact hp

theorem readAll?_inclusion_iff {captured : Captures} :
    Piece.readAll? inclusionForm.pieces after = some (captured, rest) ↔
      ∃ t, Piece.IsTarget t ∧ after = '(' :: t ++ ')' :: rest ∧ captured = [some t] := by
  rw [inclusionForm, Piece.readAll?_exact_iff]
  simp only [Piece.readAll?_target_iff, Piece.readAll?_close_iff]
  constructor
  · rintro ⟨_, rfl, t, _, _, ht, rfl, -, ⟨rfl, rfl⟩, rfl⟩
    exact ⟨t, ht, rfl, rfl⟩
  · rintro ⟨t, ht, rfl, rfl⟩
    exact ⟨_, rfl, t, _, _, ht, rfl, head?_close (by decide), ⟨rfl, rfl⟩, rfl⟩

theorem readAll?_offsetFetch_iff {captured : Captures} :
    Piece.readAll? offsetFetchForm.pieces after = some (captured, rest) ↔
      ∃ offset limit gap gap', IsWord offset ∧ IsWord limit ∧ AtMostOneSpace gap ∧
        AtMostOneSpace gap' ∧
        after = '(' :: ':' :: offset ++ gap ++ ',' :: gap' ++ ':' :: limit ++ ')' :: rest ∧
        captured = [some offset, some limit] := by
  rw [offsetFetchForm, Form.twoVariables, Piece.readAll?_exact_iff]
  simp only [Piece.readAll?_word_iff, Piece.readAll?_comma_iff,
    Piece.readAll?_close_iff]
  constructor
  · rintro ⟨_, rfl, offset, _, _, hoffset, rfl, -, ⟨gap, gap', _, hgap, hgap', rfl,
      limit, _, _, hlimit, rfl, -, ⟨rfl, rfl⟩, rfl⟩, rfl⟩
    exact ⟨offset, limit, gap, gap', hoffset, hlimit, hgap, hgap', by simp, rfl⟩
  · rintro ⟨offset, limit, gap, gap', hoffset, hlimit, hgap, hgap', rfl, rfl⟩
    refine ⟨offset ++ gap ++ ',' :: gap' ++ ':' :: limit ++ ')' :: rest, by simp, offset,
      gap ++ ',' :: (gap' ++ ':' :: (limit ++ ')' :: rest)), _, hoffset, by simp,
      Piece.head?_gap_append hgap (by decide),
      ⟨gap, gap', _, hgap, hgap', rfl, limit, _, _, hlimit, rfl, head?_close (by decide),
        ⟨rfl, rfl⟩, rfl⟩, rfl⟩

theorem readAll?_fetchVariable_iff {captured : Captures} :
    Piece.readAll? fetchVariableForm.pieces after = some (captured, rest) ↔
      ∃ limit, IsWord limit ∧ after = '(' :: ':' :: limit ++ ')' :: rest ∧
        captured = [some limit] := by
  rw [fetchVariableForm, Piece.readAll?_exact_iff]
  simp only [Piece.readAll?_word_iff, Piece.readAll?_close_iff]
  constructor
  · rintro ⟨_, rfl, limit, _, _, hlimit, rfl, -, ⟨rfl, rfl⟩, rfl⟩
    exact ⟨limit, hlimit, rfl, rfl⟩
  · rintro ⟨limit, hlimit, rfl, rfl⟩
    exact ⟨_, rfl, limit, _, _, hlimit, rfl, head?_close (by decide), ⟨rfl, rfl⟩, rfl⟩

theorem readAll?_fetchRows_iff {captured : Captures} :
    Piece.readAll? fetchRowsForm.pieces after = some (captured, rest) ↔
      ∃ digits, (digits ≠ [] ∧ ∀ c ∈ digits, c.isDigit = true) ∧
        after = '(' :: digits ++ ')' :: rest ∧ captured = [some digits] := by
  rw [fetchRowsForm, Piece.readAll?_exact_iff]
  simp only [Piece.readAll?_digits_iff, Piece.readAll?_close_iff]
  constructor
  · rintro ⟨_, rfl, digits, _, _, hdigits, rfl, -, ⟨rfl, rfl⟩, rfl⟩
    exact ⟨digits, hdigits, rfl, rfl⟩
  · rintro ⟨digits, hdigits, rfl, rfl⟩
    exact ⟨_, rfl, digits, _, _, hdigits, rfl, head?_close (by decide), ⟨rfl, rfl⟩, rfl⟩

theorem ofChars_of_isWord {w : List Char} (h : IsWord w) :
    Target.ofChars w = .fragment (String.ofList w) := by
  unfold Target.ofChars
  split
  · exact absurd (h.2 ':' List.mem_cons_self) (by decide)
  · rfl

theorem readInclusion?_eq_some_iff :
    readInclusion? after = some (f, rest) ↔
      ∃ args, after = args ++ rest ∧ Written .inclusion args rest f := by
  constructor
  · intro h
    unfold readInclusion? at h
    split at h
    · next target _ hread =>
      cases h
      obtain ⟨t, ht, rfl, hcaptured⟩ := readAll?_inclusion_iff.mp hread
      cases hcaptured
      rcases ht with hw | ⟨w, hw, rfl⟩
      · rw [ofChars_of_isWord hw]
        exact ⟨'(' :: target ++ [')'], by simp, .fragment hw⟩
      · exact ⟨'(' :: ':' :: w ++ [')'], by simp, .value hw⟩
    · cases h
  · rintro ⟨args, rfl, hw⟩
    unfold readInclusion?
    cases hw with
    | @fragment name _ hw =>
      have hread : Piece.readAll? inclusionForm.pieces ('(' :: name ++ [')'] ++ rest) =
          some ([some name], rest) :=
        readAll?_inclusion_iff.mpr ⟨name, Or.inl hw, by simp, rfl⟩
      rw [hread, ← ofChars_of_isWord hw]
    | @value name _ hw =>
      have hread : Piece.readAll? inclusionForm.pieces ('(' :: ':' :: name ++ [')'] ++ rest) =
          some ([some (':' :: name)], rest) :=
        readAll?_inclusion_iff.mpr ⟨':' :: name, Or.inr ⟨name, hw, rfl⟩, by simp, rfl⟩
      rw [hread]
      rfl

theorem readLike?_eq_some_iff :
    readLike? after = some (f, rest) ↔
      ∃ args, after = args ++ rest ∧ Written .like args rest f := by
  constructor
  · intro h
    unfold readLike? at h
    cases hcut : Text.splitFirst? endLike after with
    | none =>
      simp only [hcut, Option.getD_none] at h
      split at h
      · next hfound =>
        cases h
        obtain ⟨v, hcaptured, hfirst⟩ := FirstVariable.exists_of_search? hfound
        cases hcaptured
        exact ⟨after, by simp, .openLike (splitFirst?_endLike_eq_none_iff.mp hcut) hfirst⟩
      · cases h
    | some parts =>
      obtain ⟨body, rest'⟩ := parts
      obtain ⟨rfl, hbody⟩ := splitFirst?_endLike_eq_some_iff.mp hcut
      simp only [hcut, Option.getD_some] at h
      split at h
      · next hfound =>
        cases h
        obtain ⟨v, hcaptured, hfirst⟩ := FirstVariable.exists_of_search? hfound
        cases hcaptured
        exact ⟨body ++ endLike, rfl, .closedLike hbody hfirst⟩
      · cases h
  · rintro ⟨args, rfl, hw⟩
    unfold readLike?
    cases hw with
    | @closedLike body name _ hbody hname =>
      obtain ⟨⟨_, _, _⟩, hfound, hcaptured⟩ := hname.search?_of
      cases hcaptured
      simp only [splitFirst?_endLike_eq_some_iff.mpr ⟨rfl, hbody⟩, Option.getD_some, hfound]
    | @openLike _ name hbody hname =>
      obtain ⟨⟨_, _, _⟩, hfound, hcaptured⟩ := hname.search?_of
      cases hcaptured
      rw [List.append_nil]
      simp only [splitFirst?_endLike_eq_none_iff.mpr hbody, Option.getD_none, hfound]

theorem readOffsetFetch?_eq_some_iff :
    readOffsetFetch? after = some (f, rest) ↔
      ∃ args, after = args ++ rest ∧ Written .offsetFetch args rest f := by
  constructor
  · intro h
    unfold readOffsetFetch? at h
    split at h
    · split at h
      · next hread =>
        cases h
        obtain ⟨offset, limit, gap, gap', hoffset, hlimit, hgap, hgap', rfl, hcaptured⟩ :=
          readAll?_offsetFetch_iff.mp hread
        cases hcaptured
        exact ⟨_, by simp, .offsetFetch hoffset hlimit hgap hgap'⟩
      · cases h
    · next hparen =>
      cases h
      exact ⟨[], rfl, .bareOffsetFetch fun h => hparen (startsWith_paren.mpr h)⟩
  · rintro ⟨args, rfl, hw⟩
    unfold readOffsetFetch?
    cases hw with
    | @offsetFetch offset limit gap gap' _ hoffset hlimit hgap hgap' =>
      rw [if_pos (startsWith_paren.mpr rfl)]
      have hread : Piece.readAll? offsetFetchForm.pieces
          ('(' :: ':' :: offset ++ gap ++ ',' :: gap' ++ ':' :: limit ++ [')'] ++ rest) =
          some ([some offset, some limit], rest) :=
        readAll?_offsetFetch_iff.mpr
          ⟨offset, limit, gap, gap', hoffset, hlimit, hgap, hgap', by simp, rfl⟩
      rw [hread]
    | bareOffsetFetch hparen =>
      rw [List.nil_append, if_neg fun h => hparen (startsWith_paren.mp h)]

theorem readFetch?_eq_some_iff :
    readFetch? after = some (f, rest) ↔
      ∃ args, after = args ++ rest ∧ Written .fetch args rest f := by
  constructor
  · intro h
    unfold readFetch? at h
    split at h
    · split at h
      · next hread =>
        cases h
        obtain ⟨limit, hlimit, rfl, hcaptured⟩ := readAll?_fetchVariable_iff.mp hread
        cases hcaptured
        exact ⟨_, by simp, .fetch hlimit⟩
      · split at h
        · next hread =>
          cases h
          obtain ⟨digits, ⟨hne, hdigits⟩, rfl, hcaptured⟩ := readAll?_fetchRows_iff.mp hread
          cases hcaptured
          exact ⟨_, by simp, .rows hne hdigits⟩
        · cases h
    · next hparen =>
      cases h
      exact ⟨[], rfl, .bareFetch fun h => hparen (startsWith_paren.mpr h)⟩
  · rintro ⟨args, rfl, hw⟩
    unfold readFetch?
    cases hw with
    | @fetch limit _ hlimit =>
      rw [if_pos (startsWith_paren.mpr rfl)]
      have hread : Piece.readAll? fetchVariableForm.pieces ('(' :: ':' :: limit ++ [')'] ++ rest) =
          some ([some limit], rest) :=
        readAll?_fetchVariable_iff.mpr ⟨limit, hlimit, by simp, rfl⟩
      rw [hread]
    | @rows digits _ hne hdigits =>
      rw [if_pos (startsWith_paren.mpr rfl)]
      have hread : Piece.readAll? fetchRowsForm.pieces ('(' :: digits ++ [')'] ++ rest) =
          some ([some digits], rest) :=
        readAll?_fetchRows_iff.mpr ⟨digits, ⟨hne, hdigits⟩, by simp, rfl⟩
      -- what begins with a digit is no variable
      have hvariable : Piece.readAll? fetchVariableForm.pieces ('(' :: digits ++ [')'] ++ rest) =
          none := by
        cases hother : Piece.readAll? fetchVariableForm.pieces ('(' :: digits ++ [')'] ++ rest) with
        | none => rfl
        | some read =>
          obtain ⟨limit, -, hsame, -⟩ := readAll?_fetchVariable_iff.mp hother
          obtain ⟨d, ds, rfl⟩ := List.exists_cons_of_ne_nil hne
          obtain ⟨rfl, -⟩ := List.cons.inj (List.cons.inj hsame).2
          exact absurd (hdigits ':' List.mem_cons_self) (by decide)
      rw [hvariable, hread]
    | bareFetch hparen =>
      rw [List.nil_append, if_neg fun h => hparen (startsWith_paren.mp h)]

/-- **Reading a tag succeeds on what is written in one of its ways**, with the fragment and the rest
of the line that go with it. -/
theorem read?_eq_some_iff {tag : InlineTag} :
    tag.read? after = some (f, rest) ↔ ∃ args, after = args ++ rest ∧ tag.Written args rest f := by
  cases tag with
  | inclusion => exact readInclusion?_eq_some_iff
  | like => exact readLike?_eq_some_iff
  | offsetFetch => exact readOffsetFetch?_eq_some_iff
  | fetch => exact readFetch?_eq_some_iff

end InlineTag
end SqlTemplate
