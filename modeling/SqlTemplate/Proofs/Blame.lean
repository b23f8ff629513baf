import SqlTemplate.Proofs.OpenBlocks
import SqlTemplate.Proofs.Trimming

/-!
# The line a fault is blamed on

A fault names one line. That this is the right one means three things: the fault shows that line,
the lines above it are a beginning of some template, and **no lines below it can take the fault
away**. Reading looks ahead only to cut out bodies, so the last of these has one exception, the
block tag whose body is missing and could still come.

A block meets its faults in one way, at the root and below it, and `BlockFault` says which they are.
A fault further down is found by induction in a body or among the lines after it, and then the lines
above it consist of whole bodies, which have been read, and of tags whose bodies are being read.
The exception is why the lines below have to be cut where the body is cut: what follows the tag
directly there follows it directly in the whole, too.
-/

set_option autoImplicit false

namespace SqlTemplate

/-- The fault shows the line, or the end of it that begins after an inline tag. -/
structure FormatError.Blames (e : FormatError) (line : Line) : Prop where
  number : e.line.number = line.number
  text : e.line.chars = line.chars ∨
    BlockTag.ofStart? line.trimmed = none ∧
      ∃ before tag after, InlineTag.splitFirst? line.trimmed = some (before, tag, after) ∧
        e.line.chars <:+ after

theorem FormatError.blames_self (problem : FormatProblem) (line : Line) :
    FormatError.Blames ⟨problem, line⟩ line :=
  ⟨rfl, Or.inl rfl⟩

namespace Line

theorem after_suffix_trimmed {line : Line} {before after : List Char} {tag : InlineTag}
    (hs : InlineTag.splitFirst? line.trimmed = some (before, tag, after)) :
    after <:+ line.trimmed := by
  rw [InlineTag.eq_of_splitFirst? hs]
  exact List.suffix_append _ _

/-- The end of a trimmed line has no blank at its end. -/
theorem getLast?_not_blank_of_suffix {line : Line} {rest : List Char}
    (h : rest <:+ line.trimmed) : ∀ c ∈ rest.getLast?, Text.isBlank c = false :=
  fun c hc => Text.getLast?_trim_not _ c (Text.getLast?_of_suffix h c hc)

theorem content_blames {line : Line} {e : FormatError} (h : line.content = .error e) :
    e.line = line ∨ e.line.number = line.number ∧
      ∃ before tag after, InlineTag.splitFirst? line.trimmed = some (before, tag, after) ∧
        e.line.chars <:+ after := by
  induction line using content_induction with
  | blank line hnil =>
    rw [content_blank hnil] at h
    cases h
  | untagged line hne hs =>
    rw [content_untagged hne hs] at h
    split at h
    · cases h
      exact Or.inl rfl
    · cases h
  | unread line before tag after hs hr =>
    rw [content_unread hs hr] at h
    cases h
    exact Or.inl rfl
  | tagged line before tag after fragment rest hs hr ih =>
    rw [content_tagged hs hr] at h
    have hrest : rest <:+ after := InlineTag.read?_suffix hr
    rcases ih (Outcome.map_eq_error_iff.mp h) with hline | ⟨hnumber, _, _, later, hlater, hchars⟩
    · rw [hline]
      exact Or.inr ⟨rfl, before, tag, after, hs, hrest⟩
    · refine Or.inr ⟨hnumber, before, tag, after, hs, hchars.trans ?_⟩
      -- the later tag was found in the trimmed rest of the line
      have hblank := getLast?_not_blank_of_suffix (hrest.trans (after_suffix_trimmed hs))
      exact (after_suffix_trimmed hlater).trans ((Text.trim_suffix hblank).trans hrest)

end Line

/-! ## Faults of a block -/

/-- What a block tag on a line is refused for, if `body` stands below it. -/
inductive BlockFault (tag : BlockTag) (line : Line) (body : List Line) : FormatError → Prop where
  | malformed (h : tag.readHead? line.trimmed = none) :
      BlockFault tag line body ⟨.malformed tag.keyword, line⟩
  | below {head : Head} {e : FormatError} (hhead : tag.readHead? line.trimmed = some head)
      (h : readBody body = .error e) : BlockFault tag line body e
  | empty {head : Head} (hhead : tag.readHead? line.trimmed = some head)
      (h : readBody body = .ok []) : BlockFault tag line body ⟨.emptyBlock tag.keyword, line⟩

section BlockFault

variable {tag : BlockTag} {line : Line} {rest : List Line} {e : FormatError}

theorem readHead_eq_error_iff :
    tag.readHead line = .error e ↔
      tag.readHead? line.trimmed = none ∧ e = ⟨.malformed tag.keyword, line⟩ := by
  unfold BlockTag.readHead
  cases tag.readHead? line.trimmed <;> simp [eq_comm]

theorem requireBody_eq_error_iff {children : List Fragment} :
    tag.requireBody line children = .error e ↔
      children = [] ∧ e = ⟨.emptyBlock tag.keyword, line⟩ := by
  unfold BlockTag.requireBody
  cases children <;> simp [eq_comm]

/-- The steps that open a block fail by a fault of the block or after it. -/
theorem openBlock_eq_error_iff {body : List Line} {α : Type}
    {next : Head → List Fragment → Except FormatError α} :
    (do
      let head ← tag.readHead line
      let children ← readBody body
      let children ← tag.requireBody line children
      next head children) = .error e ↔
    BlockFault tag line body e ∨
      ∃ head children, tag.readHead? line.trimmed = some head ∧ readBody body = .ok children ∧
        children ≠ [] ∧ next head children = .error e := by
  simp only [Outcome.bind_eq_error_iff, Outline.readHead_eq_ok_iff, readHead_eq_error_iff,
    Outline.requireBody_eq_ok_iff, requireBody_eq_error_iff]
  constructor
  · intro h
    rcases h with ⟨hnone, rfl⟩ | ⟨head, hhead, hbelow | ⟨children, hchildren, h⟩⟩
    · exact Or.inl (.malformed hnone)
    · exact Or.inl (.below hhead hbelow)
    · rcases h with ⟨rfl, rfl⟩ | ⟨_, ⟨hne, rfl⟩, hnext⟩
      · exact Or.inl (.empty hhead hchildren)
      · exact Or.inr ⟨head, _, hhead, hchildren, hne, hnext⟩
  · intro h
    rcases h with hfault | ⟨head, children, hhead, hchildren, hne, hnext⟩
    · cases hfault with
      | malformed hnone => exact Or.inl ⟨hnone, rfl⟩
      | below hhead hbelow => exact Or.inr ⟨_, hhead, Or.inl hbelow⟩
      | empty hhead hchildren => exact Or.inr ⟨_, hhead, Or.inr ⟨_, hchildren, Or.inl ⟨rfl, rfl⟩⟩⟩
    · exact Or.inr ⟨head, hhead, Or.inr ⟨children, hchildren, Or.inr ⟨_, ⟨hne, rfl⟩, hnext⟩⟩⟩

theorem readBody_tag_eq_error_iff (ht : BlockTag.ofStart? line.trimmed = some tag)
    (hn : tag ≠ .naming) :
    readBody (line :: rest) = .error e ↔
      BlockFault tag line (line.body rest) e ∨
      ∃ head children, tag.readHead? line.trimmed = some head ∧
        readBody (line.body rest) = .ok children ∧ children ≠ [] ∧
        readBody (line.afterBody rest) = .error e := by
  rw [readBody, ht]
  split
  · next heq => exact absurd (Option.some.inj heq) hn
  · next heq =>
    cases heq
    refine openBlock_eq_error_iff.trans ?_
    simp only [Outcome.bind_eq_error_iff, pure, Except.pure, reduceCtorEq, and_false,
      exists_false, or_false]
  · next heq => cases heq

theorem readBody_content_eq_error_iff (ht : BlockTag.ofStart? line.trimmed = none) :
    readBody (line :: rest) = .error e ↔
      line.content = .error e ∨ ∃ own, line.content = .ok own ∧ readBody rest = .error e := by
  rw [readBody, ht]
  simp only [Outcome.bind_eq_error_iff, pure, Except.pure, reduceCtorEq, and_false, exists_false,
    or_false]

theorem readDefinition_eq_error_iff {body : List Line} :
    readDefinition line body = .error e ↔
      (BlockTag.ofStart? line.trimmed ≠ some .naming ∧ e = ⟨.strayAtRoot, line⟩) ∨
      (BlockTag.ofStart? line.trimmed = some .naming ∧ BlockFault .naming line body e) := by
  unfold readDefinition
  split
  · next ht =>
    rw [openBlock_eq_error_iff]
    constructor
    · intro h
      rcases h with hfault | ⟨head, children, hhead, -, -, hnext⟩
      · exact Or.inr ⟨ht, hfault⟩
      · obtain ⟨name, rfl⟩ := Outline.readHead?_naming hhead
        cases hnext
    · intro h
      rcases h with ⟨hother, -⟩ | ⟨-, hfault⟩
      · exact absurd ht hother
      · exact Or.inl hfault
  · next hother =>
    constructor
    · intro h
      cases h
      exact Or.inl ⟨hother, rfl⟩
    · intro h
      rcases h with ⟨-, rfl⟩ | ⟨ht, -⟩
      · rfl
      · exact absurd ht hother

theorem fault_cons_eq_some_iff :
    (readDefinitions (line :: rest)).fault = some e ↔
      readDefinition line (line.body rest) = .error e ∨
      ∃ d, readDefinition line (line.body rest) = .ok d ∧
        (readDefinitions (line.afterBody rest)).fault = some e := by
  rw [readDefinitions]
  cases hd : readDefinition line (line.body rest) with
  | error e' => simp
  | ok d => simp [Reading.cons]

end BlockFault

/-! ## What a fault settles -/

/-- The lines below do not supply the body that the fault finds missing. -/
def FormatError.Unmended (e : FormatError) (line : Line) (below : List Line) : Prop :=
  ∀ keyword, e.problem = .emptyBlock keyword → ∀ y ∈ below.head?, line.deeper y = false

/-- Below the root: the lines above are a beginning, and no lines below take the fault away. -/
structure SettledInBody (e : FormatError) (before : List Line) (found : Line) : Prop where
  blames : e.Blames found
  viable : ∀ z : Line, z.Plain → (∀ x ∈ before, x.deeper z = true) →
    ∃ fs, readBody (before ++ [z]) = .ok fs ∧ fs ≠ []
  final : ∀ below, e.Unmended found below → readBody (before ++ found :: below) = .error e

/-- At the root, where a plain line needs a definition above it. -/
structure SettledAtRoot (e : FormatError) (before : List Line) (found : Line) : Prop where
  blames : e.Blames found
  viable : before ≠ [] → ∀ z : Line, z.Plain → (∀ x ∈ before, x.deeper z = true) →
    ∃ entries, ReadsAs (before ++ [z]) entries
  final : ∀ below, e.Unmended found below →
    (readDefinitions (before ++ found :: below)).fault = some e

/-- In the block of a tag, on the line of the tag or in its body. -/
structure SettledInBlock (tag : BlockTag) (line : Line) (e : FormatError) (before : List Line)
    (found : Line) : Prop where
  blames : e.Blames found
  viable : before ≠ [] → ∀ z : Line, z.Plain → (∀ x ∈ before, x.deeper z = true) →
    ∃ below head children, before ++ [z] = line :: below ∧ (∀ x ∈ below, line.deeper x = true) ∧
      tag.readHead? line.trimmed = some head ∧ readBody below = .ok children ∧ children ≠ []
  final : ∀ below, e.Unmended found below → ∃ rest, before ++ found :: below = line :: rest ∧
    BlockFault tag line (line.body rest) e

section Settled

variable {tag : BlockTag} {line found : Line} {rest before after : List Line} {e : FormatError}

theorem FormatError.Unmended.body {below : List Line} (h : e.Unmended found below) (line : Line) :
    e.Unmended found (line.body below) := by
  intro keyword hproblem y hy
  refine h keyword hproblem y ?_
  obtain ⟨later, hlater⟩ := List.head?_eq_some_iff.mp hy
  rw [← line.body_append_afterBody below, hlater]
  rfl

/-! ### Faults of a block -/

theorem SettledInBlock.of_tag (hblames : e.Blames line)
    (hfinal : ∀ below, e.Unmended line below → BlockFault tag line (line.body below) e) :
    SettledInBlock tag line e [] line where
  blames := hblames
  viable hne := absurd rfl hne
  final below hunmended := ⟨below, rfl, hfinal below hunmended⟩

theorem SettledInBody.below_tag {head : Head} (hhead : tag.readHead? line.trimmed = some head)
    (hdeeper : ∀ x ∈ before ++ [found], line.deeper x = true) (h : SettledInBody e before found) :
    SettledInBlock tag line e (line :: before) found where
  blames := h.blames
  viable _ z hz hdeep := by
    obtain ⟨children, hchildren, hne⟩ := h.viable z hz fun x hx =>
      hdeep x (List.mem_cons_of_mem _ hx)
    refine ⟨before ++ [z], head, children, rfl, ?_, hhead, hchildren, hne⟩
    intro x hx
    rcases List.mem_append.mp hx with hx | hx
    · exact hdeeper x (List.mem_append_left _ hx)
    · rw [List.mem_singleton.mp hx]
      exact hdeep line List.mem_cons_self
  final below hunmended := by
    refine ⟨before ++ found :: below, rfl, .below hhead ?_⟩
    -- the body is cut where the lines below stop being deeper than its tag
    have hcut : line.body (before ++ found :: below) = before ++ found :: line.body below := by
      have h := Line.body_append_of_deeper hdeeper below
      rwa [List.append_assoc, List.append_assoc] at h
    rw [hcut]
    exact h.final _ (hunmended.body line)

/-- A fault of a block is settled on the line of its tag or in its body. -/
theorem BlockFault.exists_settled (hfault : BlockFault tag line (line.body rest) e)
    (hbody : readBody (line.body rest) = .error e →
      ∃ before found after, line.body rest = before ++ found :: after ∧
        SettledInBody e before found) :
    ∃ before found after, line :: rest = before ++ found :: after ∧
      SettledInBlock tag line e before found := by
  cases hfault with
  | malformed hnone =>
    exact ⟨[], line, rest, rfl, .of_tag (FormatError.blames_self _ line) fun _ _ => .malformed hnone⟩
  | empty hhead hchildren =>
    refine ⟨[], line, rest, rfl, .of_tag (FormatError.blames_self _ line) fun below hunmended => ?_⟩
    refine .empty hhead ?_
    rw [Line.body_eq_nil (hunmended _ rfl), readBody]
  | below hhead h =>
    obtain ⟨before, found, after, hsplit, hsettled⟩ := hbody h
    refine ⟨line :: before, found, after ++ line.afterBody rest, ?_, hsettled.below_tag hhead ?_⟩
    · have hparts := line.body_append_afterBody rest
      rw [hsplit, List.append_assoc, List.cons_append] at hparts
      rw [List.cons_append, hparts]
    · intro x hx
      have hmem : x ∈ line.body rest := by
        rw [hsplit, List.append_cons]
        exact List.mem_append_left _ hx
      exact Outline.deeper_of_mem_body hmem

theorem SettledInBody.of_first (hblames : e.Blames found)
    (hfinal : ∀ below, e.Unmended found below → readBody (found :: below) = .error e) :
    SettledInBody e [] found where
  blames := hblames
  viable _ hz _ := ⟨_, hz.readBody_single, List.cons_ne_nil _ _⟩
  final := hfinal

theorem SettledInBlock.inBody (h : SettledInBlock tag line e before found)
    (ht : BlockTag.ofStart? line.trimmed = some tag) (hn : tag ≠ .naming) :
    SettledInBody e before found where
  blames := h.blames
  viable z hz hdeep := by
    by_cases hbefore : before = []
    · rw [hbefore]
      exact ⟨_, hz.readBody_single, List.cons_ne_nil _ _⟩
    · obtain ⟨below, head, children, hlines, hbelow, hhead, hchildren, hne⟩ :=
        h.viable hbefore z hz hdeep
      rw [hlines]
      refine ⟨_, (Outline.readBody_tag_eq_ok_iff ht hn).mpr
        ⟨head, children, [], hhead, ?_, hne, ?_, rfl⟩, List.cons_ne_nil _ _⟩
      · rw [Line.body_eq_self hbelow, hchildren]
      · rw [Line.afterBody_eq_nil hbelow, readBody]
  final below hunmended := by
    obtain ⟨rest, hlines, hstill⟩ := h.final below hunmended
    rw [hlines]
    exact (readBody_tag_eq_error_iff ht hn).mpr (Or.inl hstill)

theorem SettledInBlock.atRoot (h : SettledInBlock .naming line e before found)
    (ht : BlockTag.ofStart? line.trimmed = some .naming) : SettledAtRoot e before found where
  blames := h.blames
  viable hbefore z hz hdeep := by
    obtain ⟨below, head, children, hlines, hbelow, hhead, hchildren, hne⟩ :=
      h.viable hbefore z hz hdeep
    obtain ⟨name, rfl⟩ := Outline.readHead?_naming hhead
    rw [hlines]
    refine ⟨_, readsAs_cons_iff.mpr ⟨⟨line, name, children⟩, [], ?_, ?_, rfl⟩⟩
    · rw [Line.body_eq_self hbelow]
      exact Outline.readDefinition_eq_ok_iff.mpr ⟨ht, name, children, hhead, hchildren, hne, rfl⟩
    · rw [Line.afterBody_eq_nil hbelow]
      exact readsAs_nil_iff.mpr rfl
  final below hunmended := by
    obtain ⟨rest, hlines, hstill⟩ := h.final below hunmended
    rw [hlines]
    exact fault_cons_eq_some_iff.mpr
      (Or.inl (readDefinition_eq_error_iff.mpr (Or.inr ⟨ht, hstill⟩)))

/-! ### Faults after a line that has been read -/

theorem split_of_afterBody (hsplit : line.afterBody rest = before ++ found :: after) :
    line :: rest = (line :: (line.body rest ++ before)) ++ found :: after := by
  rw [List.cons_append, List.append_assoc, ← hsplit, line.body_append_afterBody]

/-- Other lines may follow a body, as long as the line that ended it still comes next. -/
theorem body_of_split (hsplit : line.afterBody rest = before ++ found :: after) (ys : List Line)
    (hys : before = [] → ys.head? = some found) :
    line.body (line.body rest ++ (before ++ ys)) = line.body rest ∧
      line.afterBody (line.body rest ++ (before ++ ys)) = before ++ ys := by
  have hdeeper : ∀ x ∈ line.body rest, line.deeper x = true :=
    fun x hx => Outline.deeper_of_mem_body hx
  have hclosed : ∀ y ∈ (before ++ ys).head?, line.deeper y = false := by
    have hended := line.not_deeper_of_head?_afterBody rest
    rw [hsplit] at hended
    cases before with
    | nil =>
      rw [List.nil_append, hys rfl]
      exact hended
    | cons first before => exact hended
  exact ⟨Line.body_append hdeeper hclosed, Line.afterBody_append hdeeper hclosed⟩

/-- A body is the whole of what follows its tag, if nothing else does. -/
theorem body_of_body (line : Line) (rest : List Line) :
    line.body (line.body rest) = line.body rest ∧ line.afterBody (line.body rest) = [] := by
  have hdeeper : ∀ x ∈ line.body rest, line.deeper x = true :=
    fun x hx => Outline.deeper_of_mem_body hx
  exact ⟨Line.body_eq_self hdeeper, Line.afterBody_eq_nil hdeeper⟩

theorem SettledInBody.after_block (h : SettledInBody e before found)
    (ht : BlockTag.ofStart? line.trimmed = some tag) (hn : tag ≠ .naming) {head : Head}
    {children : List Fragment} (hhead : tag.readHead? line.trimmed = some head)
    (hchildren : readBody (line.body rest) = .ok children) (hne : children ≠ [])
    (hsplit : line.afterBody rest = before ++ found :: after) :
    SettledInBody e (line :: (line.body rest ++ before)) found where
  blames := h.blames
  viable z hz hdeep := by
    by_cases hbefore : before = []
    · -- the body stands last and is read with the line more
      subst hbefore
      rw [List.append_nil] at hdeep ⊢
      obtain ⟨hbody, hnone⟩ := body_of_body line rest
      have hown : readBody (line :: line.body rest) = .ok [.block head children] := by
        refine (Outline.readBody_tag_eq_ok_iff ht hn).mpr
          ⟨head, children, [], hhead, ?_, hne, ?_, rfl⟩
        · rw [hbody, hchildren]
        · rw [hnone, readBody]
      exact readBody_append_plain hz hown hdeep
    · obtain ⟨fs, hfs, -⟩ := h.viable z hz fun x hx =>
        hdeep x (List.mem_cons_of_mem _ (List.mem_append_right _ hx))
      obtain ⟨hbody, hlater⟩ := body_of_split hsplit [z] fun hnil => absurd hnil hbefore
      rw [List.cons_append, List.append_assoc]
      refine ⟨_, (Outline.readBody_tag_eq_ok_iff ht hn).mpr
        ⟨head, children, fs, hhead, ?_, hne, ?_, rfl⟩, List.cons_ne_nil _ _⟩
      · rw [hbody, hchildren]
      · rw [hlater, hfs]
  final below hunmended := by
    obtain ⟨hbody, hlater⟩ := body_of_split hsplit (found :: below) fun _ => rfl
    rw [List.cons_append, List.append_assoc]
    refine (readBody_tag_eq_error_iff ht hn).mpr (Or.inr ⟨head, children, hhead, ?_, hne, ?_⟩)
    · rw [hbody, hchildren]
    · rw [hlater]
      exact h.final below hunmended

theorem SettledInBody.after_content (h : SettledInBody e before found)
    (ht : BlockTag.ofStart? line.trimmed = none) {own : List Fragment}
    (hown : line.content = .ok own) : SettledInBody e (line :: before) found where
  blames := h.blames
  viable z hz hdeep := by
    obtain ⟨fs, hfs, hne⟩ := h.viable z hz fun x hx => hdeep x (List.mem_cons_of_mem _ hx)
    exact ⟨own ++ fs, (Outline.readBody_content_eq_ok_iff ht).mpr ⟨own, fs, hown, hfs, rfl⟩,
      List.append_ne_nil_of_right_ne_nil own hne⟩
  final below hunmended :=
    (readBody_content_eq_error_iff ht).mpr (Or.inr ⟨own, hown, h.final below hunmended⟩)

theorem SettledAtRoot.after_definition (h : SettledAtRoot e before found) {d : Definition}
    (hd : readDefinition line (line.body rest) = .ok d)
    (hsplit : line.afterBody rest = before ++ found :: after) :
    SettledAtRoot e (line :: (line.body rest ++ before)) found where
  blames := h.blames
  viable _ z hz hdeep := by
    by_cases hbefore : before = []
    · subst hbefore
      rw [List.append_nil] at hdeep ⊢
      obtain ⟨hbody, hnone⟩ := body_of_body line rest
      have hown : ReadsAs (line :: line.body rest) [(d.name, d.tree)] := by
        refine readsAs_cons_iff.mpr ⟨d, [], ?_, ?_, rfl⟩
        · rw [hbody, hd]
        · rw [hnone]
          exact readsAs_nil_iff.mpr rfl
      exact readsAs_append_plain hz hown (List.cons_ne_nil _ _) hdeep
    · obtain ⟨entries, hentries⟩ := h.viable hbefore z hz fun x hx =>
        hdeep x (List.mem_cons_of_mem _ (List.mem_append_right _ hx))
      obtain ⟨hbody, hlater⟩ := body_of_split hsplit [z] fun hnil => absurd hnil hbefore
      rw [List.cons_append, List.append_assoc]
      refine ⟨_, readsAs_cons_iff.mpr ⟨d, entries, ?_, ?_, rfl⟩⟩
      · rw [hbody, hd]
      · rw [hlater]
        exact hentries
  final below hunmended := by
    obtain ⟨hbody, hlater⟩ := body_of_split hsplit (found :: below) fun _ => rfl
    rw [List.cons_append, List.append_assoc]
    refine fault_cons_eq_some_iff.mpr (Or.inr ⟨d, ?_, ?_⟩)
    · rw [hbody, hd]
    · rw [hlater]
      exact h.final below hunmended

/-! ### Every fault is settled -/

/-- **The fault of a body is settled by one of its lines.** -/
theorem readBody_settled {lines : List Line} (h : readBody lines = .error e) :
    ∃ before found after, lines = before ++ found :: after ∧ SettledInBody e before found := by
  induction lines using readBody.induct with
  | case1 =>
    rw [readBody] at h
    cases h
  | case2 line rest ht =>
    have hfault : ∀ below, readBody (line :: below) = .error ⟨.nestedName, line⟩ := by
      intro below
      rw [readBody, ht]
    rw [hfault] at h
    cases h
    exact ⟨[], line, rest, rfl, .of_first (FormatError.blames_self _ line) fun below _ => hfault below⟩
  | case3 line rest tag hn ht ihbody ihafter =>
    rcases (readBody_tag_eq_error_iff ht hn).mp h with
      hfault | ⟨head, children, hhead, hchildren, hne, hafter⟩
    · obtain ⟨before, found, after, hsplit, hsettled⟩ := hfault.exists_settled ihbody
      exact ⟨before, found, after, hsplit, hsettled.inBody ht hn⟩
    · obtain ⟨before, found, after, hsplit, hsettled⟩ := ihafter hafter
      exact ⟨_, found, after, split_of_afterBody hsplit,
        hsettled.after_block ht hn hhead hchildren hne hsplit⟩
  | case4 line rest ht ih =>
    rcases (readBody_content_eq_error_iff ht).mp h with hfault | ⟨own, hown, hrest⟩
    · have hblames : e.Blames line := by
        rcases Line.content_blames hfault with hline | ⟨hnumber, htext⟩
        · exact ⟨congrArg Line.number hline, Or.inl (congrArg Line.chars hline)⟩
        · exact ⟨hnumber, Or.inr ⟨ht, htext⟩⟩
      refine ⟨[], line, rest, rfl, .of_first hblames fun below _ => ?_⟩
      exact (readBody_content_eq_error_iff ht).mpr (Or.inl hfault)
    · obtain ⟨before, found, after, hsplit, hsettled⟩ := ih hrest
      refine ⟨line :: before, found, after, ?_, hsettled.after_content ht hown⟩
      rw [hsplit, List.cons_append]

/-- **The fault of a template is settled by one of its lines.** -/
theorem readDefinitions_settled {lines : List Line} (h : (readDefinitions lines).fault = some e) :
    ∃ before found after, lines = before ++ found :: after ∧ SettledAtRoot e before found := by
  induction lines using readDefinitions.induct with
  | case1 =>
    rw [readDefinitions] at h
    cases h
  | case2 line rest e' he =>
    have hfault : readDefinition line (line.body rest) = .error e := by
      rcases fault_cons_eq_some_iff.mp h with hfault | ⟨d, hd, -⟩
      · exact hfault
      · rw [he] at hd
        cases hd
    rcases readDefinition_eq_error_iff.mp hfault with ⟨hother, rfl⟩ | ⟨ht, hblock⟩
    · refine ⟨[], line, rest, rfl, FormatError.blames_self _ line, ?_, ?_⟩
      · intro hne
        exact absurd rfl hne
      · intro below _
        exact fault_cons_eq_some_iff.mpr
          (Or.inl (readDefinition_eq_error_iff.mpr (Or.inl ⟨hother, rfl⟩)))
    · obtain ⟨before, found, after, hsplit, hsettled⟩ := hblock.exists_settled readBody_settled
      exact ⟨before, found, after, hsplit, hsettled.atRoot ht⟩
  | case3 line rest d hd ih =>
    have hlater : (readDefinitions (line.afterBody rest)).fault = some e := by
      rcases fault_cons_eq_some_iff.mp h with hfault | ⟨_, -, hlater⟩
      · rw [hd] at hfault
        cases hfault
      · exact hlater
    obtain ⟨before, found, after, hsplit, hsettled⟩ := ih hlater
    exact ⟨_, found, after, split_of_afterBody hsplit, hsettled.after_definition hd hsplit⟩

end Settled

end SqlTemplate
