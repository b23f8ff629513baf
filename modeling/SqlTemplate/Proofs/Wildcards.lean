import SqlTemplate.Proofs.Elision
import Mathlib.Algebra.Ring.Parity
import Mathlib.Data.List.DropRight

/-!
# Which values are patterns

Whether a value is compared as a pattern is found by going over it once, with a flag that says
whether the character before was a backslash that escapes. The rule that this amounts to speaks of
no flag: **a wildcard is open when the backslashes directly before it are even in number**, for then
each of them is escaped by, or escapes, another one, and none is left for the wildcard.

What carries the induction over the value is that the flag is set when the backslashes at the end of
what has been gone over are odd in number. A backslash adds one to them, and so turns the flag; any
other character leaves none of them, and also clears it.
-/

set_option autoImplicit false

namespace SqlTemplate
namespace Dialect

/-- How many backslashes stand together at the end of a text. -/
def backslashesAtEnd (text : List Char) : Nat := (text.rtakeWhile (· = '\\')).length

/-- Whether a character matches anything in a pattern. -/
def IsWildcardChar (c : Char) : Prop := c = '%' ∨ c = '_'

/-- A wildcard stands somewhere in the text, directly behind an even number of backslashes, where
those at the end of the text seen before count too. -/
def OpenBehind (seen text : List Char) : Prop :=
  ∃ before c after, text = before ++ c :: after ∧ IsWildcardChar c ∧
    Even (backslashesAtEnd (seen ++ before))

/-- The value is a pattern: it holds a wildcard with an even number of backslashes, zero included,
directly before it. -/
def IsPattern (value : String) : Prop :=
  ∃ before c after, value.toList = before ++ c :: after ∧ IsWildcardChar c ∧
    Even (backslashesAtEnd before)

/-- A text with a backslash put before each of its backslashes and wildcards. -/
def escapeWildcards (text : List Char) : List Char :=
  text.flatMap fun c => if c = '\\' ∨ c = '%' ∨ c = '_' then ['\\', c] else [c]

/-! ## The flag and the backslashes -/

section Scan

variable {seen text rest : List Char} {c : Char} {escaped : Bool}

theorem not_isWildcardChar_backslash : ¬ IsWildcardChar '\\' := by
  unfold IsWildcardChar
  decide

theorem backslashesAtEnd_backslash (text : List Char) :
    backslashesAtEnd (text ++ ['\\']) = backslashesAtEnd text + 1 := by
  rw [backslashesAtEnd, List.rtakeWhile_concat_pos _ _ _ (by decide), List.length_append,
    List.length_singleton, ← backslashesAtEnd]

theorem backslashesAtEnd_of_ne (text : List Char) (h : c ≠ '\\') :
    backslashesAtEnd (text ++ [c]) = 0 := by
  rw [backslashesAtEnd, List.rtakeWhile_concat_neg _ _ _ (by simpa using h), List.length_nil]

theorem openBehind_cons :
    OpenBehind seen (c :: rest) ↔
      (IsWildcardChar c ∧ Even (backslashesAtEnd seen)) ∨ OpenBehind (seen ++ [c]) rest := by
  constructor
  · rintro ⟨before, d, after, htext, hd, heven⟩
    rcases List.cons_eq_append_iff.mp htext with ⟨rfl, hcons⟩ | ⟨before, rfl, rfl⟩
    · obtain ⟨rfl, rfl⟩ := List.cons.inj hcons
      exact Or.inl ⟨hd, by simpa using heven⟩
    · exact Or.inr ⟨before, d, after, rfl, hd, by simpa using heven⟩
  · rintro (⟨hc, heven⟩ | ⟨before, d, after, rfl, hd, heven⟩)
    · exact ⟨[], c, rest, rfl, hc, by simpa using heven⟩
    · exact ⟨c :: before, d, after, rfl, hd, by simpa using heven⟩

/-- What the flag says of the backslashes passes on from one character to the next. -/
theorem odd_backslashesAtEnd_concat (h : escaped = true ↔ Odd (backslashesAtEnd seen)) :
    ((!escaped && decide (c = '\\')) = true ↔ Odd (backslashesAtEnd (seen ++ [c]))) := by
  by_cases hc : c = '\\'
  · subst hc
    rw [backslashesAtEnd_backslash, Nat.odd_add_one, ← h]
    simp
  · rw [backslashesAtEnd_of_ne seen hc]
    simp [hc]

theorem hasWildcard_iff_openBehind (h : escaped = true ↔ Odd (backslashesAtEnd seen)) :
    hasWildcard escaped text = true ↔ OpenBehind seen text := by
  induction text generalizing seen escaped with
  | nil => simp [hasWildcard, OpenBehind]
  | cons c rest ih =>
    have hrest := ih (odd_backslashesAtEnd_concat (c := c) h)
    rw [openBehind_cons, ← hrest]
    cases escaped with
    | true =>
      -- what is escaped cannot open anything
      have hodd : ¬ Even (backslashesAtEnd seen) := Nat.not_even_iff_odd.mpr (h.mp rfl)
      simp [hasWildcard, hodd]
    | false =>
      have heven : Even (backslashesAtEnd seen) := by
        rw [← Nat.not_odd_iff_even, ← h]
        exact Bool.false_ne_true
      by_cases hc : c = '\\'
      · subst hc
        simp [hasWildcard, not_isWildcardChar_backslash]
      · by_cases hwild : IsWildcardChar c
        · have hfound : (c = '%' ∨ c = '_') := hwild
          simp [hasWildcard, hc, hfound, hwild, heven]
        · have hnone : ¬ (c = '%' ∨ c = '_') := hwild
          simp [hasWildcard, hc, hnone, hwild]

end Scan

/-- **The scan finds the open wildcards**, and nothing else. -/
theorem isWildcard_iff_isPattern (value : String) : isWildcard value = true ↔ IsPattern value := by
  have hstart : false = true ↔ Odd (backslashesAtEnd []) := by decide
  exact hasWildcard_iff_openBehind hstart

theorem hasWildcard_escapeWildcards (text : List Char) :
    hasWildcard false (escapeWildcards text) = false := by
  induction text with
  | nil => rfl
  | cons c rest ih =>
    rw [escapeWildcards, List.flatMap_cons, ← escapeWildcards]
    by_cases hc : c = '\\' ∨ c = '%' ∨ c = '_'
    · rw [if_pos hc]
      exact ih
    · rw [if_neg hc]
      rw [not_or] at hc
      simpa [hasWildcard, hc.1, hc.2] using ih

theorem not_isPattern_empty : ¬ IsPattern "" := by
  rw [← isWildcard_iff_isPattern]
  decide

end Dialect

/-- What is not given, and what is given without a value, has no text. -/
theorem Parameters.sqlText_get_of_absent {p : Parameters} {name : String}
    (h : p.find? name = none ∨ p.find? name = some .null) : (p.get name).sqlText = "" := by
  rw [Parameters.get]
  rcases h with h | h <;> rw [h] <;> rfl

namespace Table

variable {table : Table} {s : Setting} {active : List String}

theorem renderTree_like_eq_ok_iff {name text : String} {children : List Fragment} :
    renderTree table s active (.block (.like name) children) = .ok text ↔
      ∃ texts, List.Forall₂ (fun f text => renderTree table s active f = .ok text) children texts ∧
        text = s.likeText name (String.join texts) := by
  simp only [renderTree_eq]
  rw [Fragment.render, if_pos (show s.enters (.like name) = true from rfl),
    Outcome.bind_eq_ok_iff]
  constructor
  · rintro ⟨said, hsaid, htext⟩
    exact ⟨_, Fragment.join_of_renderEach hsaid, (Except.ok.inj htext).symm⟩
  · rintro ⟨texts, htexts, rfl⟩
    refine ⟨_, Fragment.renderEach_eq_ok_iff.mpr ⟨texts, htexts, rfl⟩, ?_⟩
    rw [Setting.blockText, List.map_snd_zip (by rw [List.length_map, htexts.length_eq])]

/-- **A value is a pattern by the parity of the backslashes before its wildcards.** With a backslash
put before each backslash and each wildcard it is none. A comparison is written with `LIKE` and the
dialect's suffix for the values that are patterns, and with an equals sign for all others, among
which is a variable that is not given or has no value. -/
theorem comparison_by_parity :
    (∀ value : String, Dialect.isWildcard value = true ↔ Dialect.IsPattern value) ∧
    (∀ value : String,
      Dialect.isWildcard (String.ofList (Dialect.escapeWildcards value.toList)) = false) ∧
    (∀ (table : Table) (s : Setting) (active : List String) (name : String)
        (children : List Fragment) (text : String),
      renderTree table s active (.block (.like name) children) = .ok text ↔
        ∃ texts,
          List.Forall₂ (fun f text => renderTree table s active f = .ok text) children texts ∧
          ((Dialect.IsPattern (s.parameters.get name).sqlText ∧
              text = "LIKE " ++ String.join texts ++ s.dialect.likeSuffix) ∨
            (¬ Dialect.IsPattern (s.parameters.get name).sqlText ∧
              text = "= " ++ String.join texts))) ∧
    ∀ (table : Table) (s : Setting) (active : List String) (name : String)
        (children : List Fragment) (text : String),
      s.parameters.find? name = none ∨ s.parameters.find? name = some .null →
      (renderTree table s active (.block (.like name) children) = .ok text ↔
        ∃ texts,
          List.Forall₂ (fun f text => renderTree table s active f = .ok text) children texts ∧
          text = "= " ++ String.join texts) := by
  refine ⟨Dialect.isWildcard_iff_isPattern, fun value => ?_, fun table s active name children text =>
    ?_, fun table s active name children text habsent => ?_⟩
  · rw [Dialect.isWildcard, String.toList_ofList]
    exact Dialect.hasWildcard_escapeWildcards value.toList
  · rw [renderTree_like_eq_ok_iff]
    by_cases hpattern : Dialect.IsPattern (s.parameters.get name).sqlText
    · simp [Setting.likeText, Dialect.isWildcard_iff_isPattern, hpattern]
    · simp [Setting.likeText, Dialect.isWildcard_iff_isPattern, hpattern]
  · rw [renderTree_like_eq_ok_iff]
    have hnone := Dialect.not_isPattern_empty
    simp [Setting.likeText, Dialect.isWildcard_iff_isPattern,
      Parameters.sqlText_get_of_absent habsent, hnone]

/-- Two backslashes leave the wildcard behind them open, three do not; the third variable is given
without a value. -/
theorem comparison_by_parity_runs :
    let s : Setting := {
      parameters := .given [(.str "two", .str "a\\\\%"), (.str "three", .str "\\\\\\%"),
        (.str "none", .null)]
      dialect := ⟨.str "hsql", Dialect.escapeSuffix, .offsetFetch⟩ }
    Dialect.IsPattern "a\\\\%" ∧ ¬ Dialect.IsPattern "\\\\\\%" ∧
      Dialect.isWildcard (String.ofList (Dialect.escapeWildcards "a\\\\%".toList)) = false ∧
      renderTree [] s [] (.block (.like "two") [.text ":two "]) =
        .ok "LIKE :two ESCAPE '\\' " ∧
      renderTree [] s [] (.block (.like "three") [.text ":three "]) = .ok "= :three " ∧
      (s.parameters.find? "none" = none ∨ s.parameters.find? "none" = some .null) ∧
      renderTree [] s [] (.block (.like "none") [.text ":none "]) = .ok "= :none " := by
  intro s
  obtain ⟨hparity, hescaped, hcompared, habsent⟩ := comparison_by_parity
  have htwo : Dialect.IsPattern "a\\\\%" := (hparity _).mp (by decide)
  have hthree : ¬ Dialect.IsPattern "\\\\\\%" := fun h => by
    have hscan := (hparity _).mpr h
    revert hscan
    decide
  have htext (sql : String) :
      List.Forall₂ (fun f text => renderTree [] s [] f = .ok text) [.text sql] [sql] :=
    .cons (by rw [renderTree_eq, Fragment.render]) .nil
  have hnull : s.parameters.find? "none" = none ∨ s.parameters.find? "none" = some .null :=
    Or.inr rfl
  refine ⟨htwo, hthree, hescaped _, ?_, ?_, hnull, ?_⟩
  · exact (hcompared [] s [] "two" _ _).mpr ⟨_, htext _, Or.inl ⟨htwo, rfl⟩⟩
  · exact (hcompared [] s [] "three" _ _).mpr ⟨_, htext _, Or.inr ⟨hthree, rfl⟩⟩
  · exact (habsent [] s [] "none" _ _ hnull).mpr ⟨_, htext _, rfl⟩

end Table
end SqlTemplate
