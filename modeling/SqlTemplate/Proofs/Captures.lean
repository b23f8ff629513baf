import SqlTemplate.Template.Header
import SqlTemplate.Proofs.Trimming

/-!
# What forms capture

The arguments of tags are words, with a colon before them or an equals sign, and a form captures
nothing else. `Piece.Captured` says it of each piece. A form's pieces are read one after the other,
so what a form captures is what its pieces capture, in order.

A match value is captured as it is written and cleaned later. **Cleaning leaves the word**, since a
word has no blank in it and neither has the equals sign.
-/

set_option autoImplicit false

namespace SqlTemplate

/-- A word: at least one character, and only letters, digits and underscores. -/
def IsWord (cs : List Char) : Prop := cs ≠ [] ∧ ∀ c ∈ cs, isWordChar c = true

instance : DecidablePred IsWord := fun cs =>
  decidable_of_iff (cs ≠ [] ∧ cs.all isWordChar = true) (by simp [IsWord])

theorem not_isBlank_of_isWordChar {c : Char} (h : isWordChar c = true) :
    Text.isBlank c = false := by
  have hupper : c.isUpper = true → 65 ≤ c.toNat ∧ c.toNat ≤ 90 := of_decide_eq_true
  have hlower : c.isLower = true → 97 ≤ c.toNat ∧ c.toNat ≤ 122 := fun h =>
    ((Bool.and_eq_true _ _).mp h).imp of_decide_eq_true of_decide_eq_true
  have hdigit : c.isDigit = true → 48 ≤ c.toNat ∧ c.toNat ≤ 57 := Char.isDigit_iff_toNat.mp
  change (((c.isUpper || c.isLower) || c.isDigit) || decide (c = '_')) = true at h
  simp only [Bool.or_eq_true, decide_eq_true_eq] at h
  have hrange : 48 ≤ c.toNat ∧ c.toNat ≤ 122 := by
    rcases h with ((h | h) | h) | rfl
    · have := hupper h; omega
    · have := hlower h; omega
    · have := hdigit h; omega
    · decide
  simp only [Text.isBlank, Bool.or_eq_false_iff, Bool.and_eq_false_iff, decide_eq_false_iff_not,
    beq_eq_false_iff_ne]
  omega

namespace IsWord

variable {w : List Char}

theorem not_blank (h : IsWord w) {c : Char} (hc : c ∈ w) : Text.isBlank c = false :=
  not_isBlank_of_isWordChar (h.2 c hc)

theorem trim (h : IsWord w) : Text.trim w = w :=
  Text.trim_eq_self (fun _ hc => h.not_blank (List.mem_of_mem_head? hc))
    (fun _ hc => h.not_blank (List.mem_of_mem_getLast? hc))

/-- What is written for a match value is cleaned to its word. -/
theorem matchValueText {before between : List Char} (hbefore : before = [] ∨ before = [' '])
    (hbetween : between = [] ∨ between = [' ']) (h : IsWord w) :
    SqlTemplate.matchValueText (before ++ '=' :: (between ++ w)) = w := by
  have hgap : ∀ gap : List Char, gap = [] ∨ gap = [' '] → ∀ c ∈ gap, Text.isBlank c = true := by
    intro gap hgap c hc
    rcases hgap with rfl | rfl
    · cases hc
    · rw [List.mem_singleton.mp hc]
      decide
  have hlast : ∀ c ∈ ('=' :: (between ++ w)).getLast?, Text.isBlank c = false := by
    intro c hc
    rw [← List.cons_append, List.getLast?_append_of_ne_nil _ h.1] at hc
    exact h.not_blank (List.mem_of_mem_getLast? hc)
  have htrim : Text.trim (before ++ '=' :: (between ++ w)) = '=' :: (between ++ w) := by
    rw [Text.trim_blank_append (hgap before hbefore)]
    apply Text.trim_eq_self _ hlast
    intro c hc
    cases hc
    decide
  unfold SqlTemplate.matchValueText
  rw [htrim]
  show Text.trim (between ++ w) = w
  rw [Text.trim_blank_append (hgap between hbetween), h.trim]

end IsWord

namespace Piece

/-! ## Pieces -/

theorem skipSpace_eq (text : List Char) :
    ∃ space, (space = [] ∨ space = [' ']) ∧ text = space ++ skipSpace text := by
  unfold skipSpace
  split
  · exact ⟨[' '], Or.inr rfl, rfl⟩
  · exact ⟨[], Or.inl rfl, rfl⟩

theorem run?_eq_some {p : Char → Bool} {text run rest : List Char}
    (h : run? p text = some (run, rest)) :
    run ≠ [] ∧ (∀ c ∈ run, p c = true) ∧ text = run ++ rest ∧ ∀ c ∈ rest.head?, p c = false := by
  unfold run? at h
  split at h
  · cases h
  · next hne =>
    cases h
    exact ⟨hne, fun c hc => List.mem_takeWhile_imp hc, List.takeWhile_append_dropWhile.symm,
      Text.head?_dropWhile_not p text⟩

theorem head?_of_run?_eq_none {p : Char → Bool} {text : List Char} (h : run? p text = none) :
    ∀ c ∈ text.head?, p c = false := by
  intro c hc
  cases text with
  | nil => cases hc
  | cons d text =>
    cases hc
    unfold run? at h
    cases hp : p c with
    | false => rfl
    | true => simp [hp] at h

theorem isWord_of_run? {text w rest : List Char} (h : run? isWordChar text = some (w, rest)) :
    IsWord w := by
  obtain ⟨hne, hword, -⟩ := run?_eq_some h
  exact ⟨hne, hword⟩

theorem reference?_eq_some {text v rest : List Char} (h : reference? text = some (v, rest)) :
    ∃ w, IsWord w ∧ v = ':' :: w := by
  unfold reference? at h
  split at h
  · obtain ⟨⟨w, rest'⟩, hrun, hpair⟩ := Option.map_eq_some_iff.mp h
    cases hpair
    exact ⟨w, isWord_of_run? hrun, rfl⟩
  · cases h

/-- What is captured of a match value is everything from where it begins to the end of its word. -/
theorem matchValue?_eq_some {text v rest : List Char} (h : matchValue? text = some (v, rest)) :
    ∃ before between w, (before = [] ∨ before = [' ']) ∧ (between = [] ∨ between = [' ']) ∧
      IsWord w ∧ v = before ++ '=' :: (between ++ w) ∧ text = v ++ rest ∧
      ∀ c ∈ rest.head?, isWordChar c = false := by
  unfold matchValue? at h
  split at h
  · next afterSign hsign =>
    obtain ⟨⟨w, rest'⟩, hrun, hpair⟩ := Option.map_eq_some_iff.mp h
    cases hpair
    obtain ⟨before, hbefore, htext⟩ := skipSpace_eq text
    obtain ⟨between, hbetween, hafter⟩ := skipSpace_eq afterSign
    obtain ⟨hne, hw, hword, hrest⟩ := run?_eq_some hrun
    have hwhole : text = (before ++ '=' :: (between ++ w)) ++ rest := by
      rw [htext, hsign, hafter, hword]
      simp
    have hwritten : text.take (text.length - rest.length) = before ++ '=' :: (between ++ w) := by
      rw [hwhole, List.length_append, Nat.add_sub_cancel, List.take_left']
      rfl
    rw [hwritten]
    exact ⟨before, between, w, hbefore, hbetween, ⟨hne, hw⟩, rfl, hwhole, hrest⟩
  · cases h

theorem isWord_of_matchValue? {text v rest : List Char} (h : matchValue? text = some (v, rest)) :
    IsWord (matchValueText v) := by
  obtain ⟨before, between, w, hbefore, hbetween, hw, rfl, -, -⟩ := matchValue?_eq_some h
  rw [hw.matchValueText hbefore hbetween]
  exact hw

/-- What a piece may have captured. -/
def Captured : Piece → Captures → Prop
  | .exact _, captured => captured = []
  | .comma, captured => captured = []
  | .word, captured => ∃ w, IsWord w ∧ captured = [some w]
  | .reference, captured => ∃ w, IsWord w ∧ captured = [some (':' :: w)]
  | .target, captured => ∃ w, IsWord w ∧ (captured = [some (':' :: w)] ∨ captured = [some w])
  | .matchValue, captured =>
    captured = [none] ∨ ∃ v, IsWord (matchValueText v) ∧ captured = [some v]
  | .digits, captured => ∃ d, captured = [some d]

theorem captured_of_read? {piece : Piece} {text rest : List Char} {captured : Captures}
    (h : piece.read? text = some (captured, rest)) : piece.Captured captured := by
  cases piece with
  | exact start =>
    obtain ⟨_, -, hpair⟩ := Option.map_eq_some_iff.mp h
    cases hpair
    rfl
  | word =>
    obtain ⟨⟨w, _⟩, hrun, hpair⟩ := Option.map_eq_some_iff.mp h
    cases hpair
    exact ⟨w, isWord_of_run? hrun, rfl⟩
  | digits =>
    obtain ⟨⟨d, _⟩, -, hpair⟩ := Option.map_eq_some_iff.mp h
    cases hpair
    exact ⟨d, rfl⟩
  | reference =>
    obtain ⟨⟨v, _⟩, href, hpair⟩ := Option.map_eq_some_iff.mp h
    cases hpair
    obtain ⟨w, hw, rfl⟩ := reference?_eq_some href
    exact ⟨w, hw, rfl⟩
  | target =>
    obtain ⟨⟨t, _⟩, hread, hpair⟩ := Option.map_eq_some_iff.mp h
    cases hpair
    rcases Option.or_eq_some_iff.mp hread with href | ⟨-, hrun⟩
    · obtain ⟨w, hw, rfl⟩ := reference?_eq_some href
      exact ⟨w, hw, Or.inl rfl⟩
    · exact ⟨t, isWord_of_run? hrun, Or.inr rfl⟩
  | matchValue =>
    simp only [read?] at h
    split at h
    · next v rest' hv =>
      cases h
      exact Or.inr ⟨v, isWord_of_matchValue? hv, rfl⟩
    · cases h
      exact Or.inl rfl
  | comma =>
    simp only [read?] at h
    split at h <;> cases h
    rfl

/-- What pieces may have captured one after the other. -/
def AllCaptured : List Piece → Captures → Prop
  | [], captured => captured = []
  | piece :: pieces, captured =>
    ∃ own more, piece.Captured own ∧ AllCaptured pieces more ∧ captured = own ++ more

theorem allCaptured_of_readAll? {pieces : List Piece} {text rest : List Char} {captured : Captures}
    (h : readAll? pieces text = some (captured, rest)) : AllCaptured pieces captured := by
  induction pieces generalizing text captured with
  | nil =>
    cases h
    rfl
  | cons piece pieces ih =>
    simp only [readAll?] at h
    split at h
    · cases h
    · next own rest' hread =>
      obtain ⟨⟨more, _⟩, hmore, hpair⟩ := Option.map_eq_some_iff.mp h
      cases hpair
      exact ⟨own, more, captured_of_read? hread, ih hmore, rfl⟩

end Piece

theorem Form.allCaptured_of_full? {form : Form} {text : List Char} {captured : Captures}
    (htrailing : form.trailing = false) (h : form.full? text = some captured) :
    Piece.AllCaptured form.pieces captured := by
  unfold full? at h
  split at h
  · next all hread =>
    cases h
    unfold read? at hread
    split at hread
    · cases hread
    · split at hread
      · cases hread
      · next captured' rest hall =>
        rw [htrailing] at hread
        cases hread
        exact Piece.allCaptured_of_readAll? hall
  · cases h

end SqlTemplate
