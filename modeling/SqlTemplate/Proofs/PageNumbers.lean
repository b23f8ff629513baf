import Mathlib
import SqlTemplate.Proofs.FaultOrigin
import SqlTemplate.Proofs.Numerals
import SqlTemplate.Proofs.Transparency
import SqlTemplate.Template.Layout

/-!
# Numbers of pages are exact

A value of a page is handed to the dialect as a number. Which number a value denotes is said here
apart from how it is read: an integer itself, a text the integer it writes, a double the integer it
is equal to, and nothing else denotes one. **A number that is handed on is the one that the value
denotes, and a value that denotes none is refused by its variable's name.**

This is so for all values but two sorts of doubles. One with a fraction denotes no integer and is
handed on without its fraction, and an infinite one is a fault that names no variable. So doubles
are taken to be whole here, or no numbers at all.
-/

set_option autoImplicit false

namespace SqlTemplate

namespace Binary64

/-- The number that a finite double is. -/
def finiteValue (negative : Bool) (significand : Nat) (exponent : Int) : ℚ :=
  (if negative then -1 else 1) * (significand * 2 ^ exponent)

theorem quotient_pos (m : Nat) (e : Int) : 0 < (quotient m e).2 := by
  cases e with
  | ofNat k => exact Nat.one_pos
  | negSucc k => exact Nat.pow_pos (by decide)

/-- A double's size is its quotient. -/
theorem quotient_eq (m : Nat) (e : Int) :
    ((quotient m e).1 : ℚ) = m * 2 ^ e * (quotient m e).2 := by
  cases e with
  | ofNat k =>
    show ((m * 2 ^ k : ℕ) : ℚ) = m * 2 ^ (k : ℤ) * (1 : ℕ)
    rw [zpow_natCast]
    push_cast
    ring
  | negSucc k =>
    show (m : ℚ) = m * 2 ^ Int.negSucc k * ((2 ^ (k + 1) : ℕ) : ℚ)
    have hpow : ((2 : ℚ) ^ (k + 1)) ≠ 0 := by positivity
    rw [zpow_negSucc]
    push_cast
    rw [mul_assoc, inv_mul_cancel₀ hpow, mul_one]

/-- Nothing is cut off a double that is an integer. -/
theorem truncate_eq {negative : Bool} {m : Nat} {e n : Int}
    (h : finiteValue negative m e = n) : truncate negative m e = n := by
  -- the quotient without its sign
  have hdiv : ∀ k : Int, (m : ℚ) * 2 ^ e = k →
      (((quotient m e).1 / (quotient m e).2 : Nat) : Int) = k := by
    intro k hk
    have hnum : ((quotient m e).1 : ℚ) = k * (quotient m e).2 := hk ▸ quotient_eq m e
    have hnum : ((quotient m e).1 : Int) = k * (quotient m e).2 := by exact_mod_cast hnum
    have hden : ((quotient m e).2 : Int) ≠ 0 := by exact_mod_cast (quotient_pos m e).ne'
    rw [Int.natCast_ediv, hnum, Int.mul_ediv_cancel k hden]
  cases negative with
  | false =>
    rw [finiteValue, if_neg Bool.false_ne_true, one_mul] at h
    exact hdiv n h
  | true =>
    rw [finiteValue, if_pos rfl, neg_one_mul, neg_eq_iff_eq_neg] at h
    have hneg := hdiv (-n) (by rw [h]; push_cast; rfl)
    show -(((quotient m e).1 / (quotient m e).2 : Nat) : Int) = n
    rw [hneg, neg_neg]

end Binary64

namespace Value

/-- A value denotes an integer. -/
inductive Denotes : Value → Int → Prop where
  | int (n : Int) : Denotes (.int n) n
  | float {negative : Bool} {m : Nat} {e n : Int} (h : Binary64.finiteValue negative m e = n) :
      Denotes (.float (.finite negative m e)) n
  | str {s : String} {n : Int} (h : Numeral.Writes s.toList n) : Denotes (.str s) n
  | bytes {b : List UInt8} {n : Int} (hascii : ∀ x ∈ b, x < 0x80)
      (h : Numeral.Writes (b.map fun x => Char.ofNat x.toNat) n) : Denotes (.bytes b) n

/-- A double is an integer or no number at all; other values are as they may be. -/
def Whole : Value → Prop
  | .float (.finite negative m e) => ∃ n : Int, Binary64.finiteValue negative m e = n
  | .float (.infinite _) => False
  | _ => True

variable {v : Value} {n : Int} {name : String}

theorem Denotes.pageNumber_eq (h : v.Denotes n) : v.pageNumber name = .ok n := by
  cases h with
  | int => rfl
  | float h => rw [pageNumber, Binary64.truncate_eq h]
  | str h => rw [pageNumber, Numeral.read?_eq_some_iff.mpr h]
  | bytes hascii h => rw [pageNumber, Numeral.readBytes?_eq_some_iff.mpr ⟨hascii, h⟩]

/-- A whole value is taken as the integer that it denotes, or it denotes none and is refused. -/
theorem pageNumber_cases (hwhole : v.Whole) (name : String) :
    (∃ n, v.Denotes n ∧ v.pageNumber name = .ok n) ∨
      (∀ n, ¬ v.Denotes n) ∧ v.pageNumber name = .error (.notAnInteger name v) := by
  by_cases hdenotes : ∃ n, v.Denotes n
  · obtain ⟨n, hn⟩ := hdenotes
    exact Or.inl ⟨n, hn, hn.pageNumber_eq⟩
  · have hnone : ∀ n, ¬ v.Denotes n := not_exists.mp hdenotes
    refine Or.inr ⟨hnone, ?_⟩
    cases v with
    | int n => exact absurd (.int n) (hnone n)
    | float x =>
      cases x with
      | nan => rfl
      | infinite => exact hwhole.elim
      | finite negative m e =>
        obtain ⟨n, hn⟩ := hwhole
        exact absurd (.float hn) (hnone n)
    | str s =>
      cases hread : Numeral.read? s.toList with
      | some n => exact absurd (.str (Numeral.read?_eq_some_iff.mp hread)) (hnone n)
      | none => rw [pageNumber, hread]
    | bytes b =>
      cases hread : Numeral.readBytes? b with
      | some n =>
        obtain ⟨hascii, hwrites⟩ := Numeral.readBytes?_eq_some_iff.mp hread
        exact absurd (.bytes hascii hwrites) (hnone n)
      | none => rw [pageNumber, hread]
    | null | bool | list | mapping => rfl

end Value

namespace Parameters

variable {p : Parameters} {name : String}

theorem pageNumber?_of_none (h : p.get name = .null) : p.pageNumber? (some name) = .ok none := by
  unfold pageNumber?
  unfold get at h
  cases hfind : p.find? name with
  | none => simp [hfind]
  | some v =>
    rw [hfind] at h
    cases h
    simp [hfind]

theorem pageNumber?_of_some {v : Value} (hname : name ≠ "") (h : p.find? name = some v)
    (hgiven : v ≠ .null) : p.pageNumber? (some name) = (v.pageNumber name).map some := by
  have hisEmpty : name.isEmpty = false := by simpa using hname
  simp only [pageNumber?, hisEmpty, h, Bool.false_eq_true, if_false]

/-- The number of a page is asked for by the name of a variable, unless it is fixed. -/
inductive Numbers (p : Parameters) :
    Option String → Option Int → Except RenderError (Option Int) → Prop where
  | fixed (name : Option String) (n : Int) : p.Numbers name (some n) (.ok (some n))
  | unnamed : p.Numbers none none (.ok none)
  | nameless : p.Numbers (some "") none (.ok none)
  | absent {name : String} (h : p.find? name = none) : p.Numbers (some name) none (.ok none)
  | null {name : String} (h : p.find? name = some .null) : p.Numbers (some name) none (.ok none)
  | exact {name : String} {v : Value} {n : Int} (hname : name ≠ "") (h : p.find? name = some v)
      (hn : v.Denotes n) : p.Numbers (some name) none (.ok (some n))
  | refused {name : String} {v : Value} (hname : name ≠ "") (h : p.find? name = some v)
      (hgiven : v ≠ .null) (hnone : ∀ n, ¬ v.Denotes n) :
      p.Numbers (some name) none (.error (.notAnInteger name v))

end Parameters

namespace Setting

variable {s : Setting}

/-- What a page comes to: its two numbers are handed to the dialect, or one of them is refused,
the offset first. -/
inductive Pages (s : Setting) (offset fetch : Option String) (rows : Option Int)
    (hand : (offset fetch : Option Int) → Except DialectError String) :
    Except RenderError String → Prop where
  | handed {o f : Option Int} (ho : s.parameters.Numbers offset none (.ok o))
      (hf : s.parameters.Numbers fetch rows (.ok f)) :
      Pages s offset fetch rows hand ((hand o f).mapError .dialect)
  | noOffset {e : RenderError} (ho : s.parameters.Numbers offset none (.error e)) :
      Pages s offset fetch rows hand (.error e)
  | noFetch {o : Option Int} {e : RenderError} (ho : s.parameters.Numbers offset none (.ok o))
      (hf : s.parameters.Numbers fetch rows (.error e)) : Pages s offset fetch rows hand (.error e)

theorem numbers_rowLimit {name : Option String} {rows : Option Int}
    (hwhole : rows = none → ∀ v ∈ Fragment.pageVariable name,
      ∀ value, s.parameters.find? v = some value → value.Whole) :
    s.parameters.Numbers name rows (s.rowLimit name rows) := by
  cases rows with
  | some n => exact .fixed name n
  | none =>
    cases name with
    | none => exact .unnamed
    | some name =>
      by_cases hempty : name = ""
      · subst hempty
        exact .nameless
      show s.parameters.Numbers _ _ (s.parameters.pageNumber? (some name))
      cases hfind : s.parameters.find? name with
      | none =>
        rw [Parameters.pageNumber?_of_none (by rw [Parameters.get, hfind]; rfl)]
        exact .absent hfind
      | some v =>
        by_cases hnull : v = .null
        · subst hnull
          rw [Parameters.pageNumber?_of_none (by rw [Parameters.get, hfind]; rfl)]
          exact .null hfind
        rw [Parameters.pageNumber?_of_some hempty hfind hnull]
        have hpage : name ∈ Fragment.pageVariable (some name) :=
          Fragment.mem_pageVariable_some (by simpa using hempty)
        rcases Value.pageNumber_cases (hwhole rfl name hpage v hfind) name with
          ⟨n, hn, hread⟩ | ⟨hnone, hread⟩
        · rw [hread]
          exact .exact hempty hfind hn
        · rw [hread]
          exact .refused hempty hfind hnull hnone

theorem pages_rowLimit {offset fetch : Option String} {rows : Option Int}
    {hand : (offset fetch : Option Int) → Except DialectError String}
    (ho : s.parameters.Numbers offset none (s.rowLimit offset none))
    (hf : s.parameters.Numbers fetch rows (s.rowLimit fetch rows)) :
    s.Pages offset fetch rows hand (do
      let o ← s.rowLimit offset none
      let f ← s.rowLimit fetch rows
      (hand o f).mapError .dialect) := by
  cases hoffset : s.rowLimit offset none with
  | error e => exact .noOffset (hoffset ▸ ho)
  | ok o =>
    cases hfetch : s.rowLimit fetch rows with
    | error e => exact .noFetch (hoffset ▸ ho) (hfetch ▸ hf)
    | ok f => exact .handed (hoffset ▸ ho) (hfetch ▸ hf)

end Setting

/-! ## Pages in a rendering -/

/-- A fault that is left with is the result of the whole rendering. -/
theorem Moment.render_eq_error_of_leave {table : Table} {s : Setting} {root : String}
    {tree : Fragment} (hf : Entries.find? root table = some tree) {m : Moment}
    (hrun : Leads table s ⟨.enter tree, [], [root]⟩ m) {e : RenderError}
    (hleave : Leads table s m ⟨.leave (.error e), m.frames, m.active⟩) :
    table.render s root = .error e :=
  (Leads.ends_of_ends (hrun.trans hleave) (ends_render hf)).unique (ends_leave_error e _ _)

namespace Table

variable {table : Table} {s : Setting}

/-- A node asks for a page by two variables, or with a fixed number of rows: for a clause, or for
another query in place of the one that its children make. -/
inductive AsksPage (table : Table) (s : Setting) (active : List String) : Fragment →
    Option String → Option String → Option Int →
    ((offset fetch : Option Int) → Except DialectError String) → Prop where
  | clause (offset fetch : Option String) (rows : Option Int) :
      AsksPage table s active (.offsetFetch offset fetch rows) offset fetch rows
        s.dialect.pagingClause
  | query {offset fetch : String} {children : List Fragment}
      {said : List (Option String × String)}
      (h : Fragment.renderEach s (table.refer s active) children = .ok said) :
      AsksPage table s active (.block (.paging offset fetch) children) (some offset) (some fetch)
        none (s.dialect.addPaging (String.join (said.map Prod.snd)))

namespace AsksPage

variable {active : List String} {node : Fragment} {offset fetch : Option String}
  {rows : Option Int} {hand : (offset fetch : Option Int) → Except DialectError String}

theorem renderTree_eq (h : table.AsksPage s active node offset fetch rows hand) :
    table.renderTree s active node = (do
      let o ← s.rowLimit offset none
      let f ← s.rowLimit fetch rows
      (hand o f).mapError .dialect) := by
  rw [Table.renderTree_eq]
  cases h with
  | clause => exact s.clauseText_eq offset fetch rows
  | query h =>
    next offset fetch _ _ =>
    have henters : s.enters (.paging offset fetch) = true := rfl
    rw [Fragment.render, if_pos henters, h]
    rfl

theorem mem_pageVariables (h : table.AsksPage s active node offset fetch rows hand) {v : String}
    (hv : v ∈ Fragment.pageVariable offset ∨ rows = none ∧ v ∈ Fragment.pageVariable fetch) :
    v ∈ node.pageVariables := by
  cases h with
  | clause =>
    rcases hv with hv | ⟨rfl, hv⟩
    · exact List.mem_append_left _ hv
    · exact List.mem_append_right _ hv
  | query =>
    rcases hv with hv | ⟨-, hv⟩
    · exact List.mem_append_left _ hv
    · exact List.mem_append_right _ hv

end AsksPage

/-- **Numbers of pages are exact or refused.** A page that is come to leaves with what the dialect
makes of the integers that its variables' values denote, or with the refusal of a value that
denotes none, which is then the result of the whole rendering. -/
theorem page_numbers_exact {root : String} {tree node : Fragment}
    (hf : Entries.find? root table = some tree) {m : Moment}
    (hrun : Moment.Leads table s ⟨.enter tree, [], [root]⟩ m) (hcontrol : m.control = .enter node)
    {offset fetch : Option String} {rows : Option Int}
    {hand : (offset fetch : Option Int) → Except DialectError String}
    (hpage : table.AsksPage s m.active node offset fetch rows hand)
    (hwhole : ∀ v ∈ node.pageVariables, ∀ value,
      s.parameters.find? v = some value → value.Whole) :
    ∃ result, s.Pages offset fetch rows hand result ∧
      Moment.Leads table s m ⟨.leave result, m.frames, m.active⟩ ∧
      ∀ e, result = .error e → table.render s root = .error e := by
  obtain ⟨control, frames, active⟩ := m
  cases hcontrol
  have hleave : Moment.Leads table s ⟨.enter node, frames, active⟩
      ⟨.leave (table.renderTree s active node), frames, active⟩ :=
    Moment.leads_renderTree node frames
  rw [hpage.renderTree_eq] at hleave
  refine ⟨_, ?_, hleave, ?_⟩
  · apply Setting.pages_rowLimit
    · exact Setting.numbers_rowLimit fun _ v hv => hwhole v (hpage.mem_pageVariables (Or.inl hv))
    · exact Setting.numbers_rowLimit fun hrows v hv =>
        hwhole v (hpage.mem_pageVariables (Or.inr ⟨hrows, hv⟩))
  · intro e he
    exact Moment.render_eq_error_of_leave hf hrun (he ▸ hleave)

/-- A double with a fraction is handed on without it, and an infinite one is another fault. -/
theorem page_numbers_inexact :
    let fraction : Value := .float (.finite false 9007199254740993 (-1))
    let infinite : Value := .float (.infinite false)
    let table : Table :=
      [("A", .block (.named "A") [.offsetFetch none (some "paging_fetch") none])]
    parseLines ["@NAME(A)", "  @FETCH"] false = .ok table ∧
      (∀ n, ¬ fraction.Denotes n) ∧ (∀ n, ¬ infinite.Denotes n) ∧
      table.render { parameters := .given [(.str "paging_fetch", fraction)] } "A" =
        .ok "FETCH FIRST 4503599627370496 ROWS ONLY " ∧
      table.render { parameters := .given [(.str "paging_fetch", infinite)] } "A" =
        .error .infiniteNumber := by
  intro fraction infinite table
  have hfraction : ∀ n, ¬ Value.Denotes (.float (.finite false 9007199254740993 (-1))) n := by
    intro n hn
    cases hn with | float h
    have hodd : (9007199254740993 : ℚ) = 2 * n := by
      rw [← h]
      norm_num [Binary64.finiteValue]
    have hodd : (9007199254740993 : Int) = 2 * n := by exact_mod_cast hodd
    omega
  have hinfinite : ∀ n, ¬ Value.Denotes (.float (.infinite false)) n := by
    intro n hn
    cases hn
  exact ⟨by cbv, hfraction, hinfinite, by cbv, by cbv⟩

/-- A number in bytes, with a sign, an underscore and blanks, and a double that is an integer. -/
theorem page_numbers_exact_mixed :
    let s : Setting := { parameters := .given [
      (.str "paging_offset", .bytes [9, 43, 49, 95, 48, 32]),
      (.str "paging_fetch", .float (.finite false 4503599627370496 1))] }
    let node : Fragment := .offsetFetch (some "paging_offset") (some "paging_fetch") none
    let tree : Fragment := .block (.named "A") [node]
    let table : Table := [("A", tree)]
    parseLines ["@NAME(A)", "  @OFFSETFETCH"] false = .ok table ∧
      Entries.find? "A" table = some tree ∧
      table.render s "A" = .ok "OFFSET 10 ROWS FETCH NEXT 9007199254740992 ROWS ONLY " ∧
      (∀ v ∈ node.pageVariables, ∀ value, s.parameters.find? v = some value → value.Whole) ∧
      ∃ m, Moment.Leads table s ⟨.enter tree, [], ["A"]⟩ m ∧ m.control = .enter node ∧
        table.AsksPage s m.active node (some "paging_offset") (some "paging_fetch") none
          s.dialect.pagingClause ∧
        ∃ result, s.Pages (some "paging_offset") (some "paging_fetch") none s.dialect.pagingClause
            result ∧
          Moment.Leads table s m ⟨.leave result, m.frames, m.active⟩ ∧
          ∀ e, result = .error e → table.render s "A" = .error e := by
  intro s node tree table
  have hwhole : ∀ v ∈ node.pageVariables, ∀ value,
      s.parameters.find? v = some value → value.Whole := by
    intro v hv value hvalue
    have hv : v = "paging_offset" ∨ v = "paging_fetch" := by
      simpa [node, Fragment.pageVariables, Fragment.pageVariable] using hv
    rcases hv with rfl | rfl
    · cases hvalue
      trivial
    · cases hvalue
      exact ⟨9007199254740992, by norm_num [Binary64.finiteValue]⟩
  let m : Moment := ⟨.enter node, [.within (.named "A") [node] []], ["A"]⟩
  have hrun : Moment.Leads table s ⟨.enter tree, [], ["A"]⟩ m := .head rfl .refl
  have hpage : table.AsksPage s m.active node (some "paging_offset") (some "paging_fetch") none
      s.dialect.pagingClause := .clause _ _ _
  exact ⟨by cbv, rfl, by cbv, hwhole, m, hrun, rfl, hpage,
    page_numbers_exact rfl hrun rfl hpage hwhole⟩

end Table
end SqlTemplate
