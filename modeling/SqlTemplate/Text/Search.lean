/-!
# Searching a text

Reading the notation means asking three questions of a text: does it begin with this, where does
this first occur, where does it last occur. Each answer hands back the pieces rather than a
position, so that a reader goes on with what is left and the pieces can be put together again.
-/

set_option autoImplicit false

namespace SqlTemplate
namespace Text

/-- What follows `start` in a text that begins with it. -/
def dropStart? : (start text : List Char) → Option (List Char)
  | [], text => some text
  | _ :: _, [] => none
  | a :: start, c :: text => if a = c then dropStart? start text else none

/-- A text begins with `start` exactly when it is `start` and then what is handed back. -/
theorem dropStart?_eq_some_iff {start text rest : List Char} :
    dropStart? start text = some rest ↔ text = start ++ rest := by
  induction start generalizing text with
  | nil => simp [dropStart?, eq_comm]
  | cons a start ih =>
    cases text with
    | nil => simp [dropStart?]
    | cons c text =>
      by_cases h : a = c
      · subst h; simp [dropStart?, ih]
      · simp [dropStart?, h, Ne.symm h]

def startsWith (start text : List Char) : Bool := (dropStart? start text).isSome

def splitFirst? (mark : List Char) : List Char → Option (List Char × List Char)
  | [] => if mark.isEmpty then some ([], []) else none
  | c :: text =>
    match dropStart? mark (c :: text) with
    | some after => some ([], after)
    | none => (splitFirst? mark text).map fun (before, after) => (c :: before, after)

/-- Cutting at the first occurrence loses nothing. -/
theorem eq_of_splitFirst? {mark text before after : List Char}
    (h : splitFirst? mark text = some (before, after)) : text = before ++ mark ++ after := by
  induction text generalizing before with
  | nil =>
    unfold splitFirst? at h
    split at h
    · next hm =>
      simp only [Option.some.injEq, Prod.mk.injEq] at h
      obtain ⟨rfl, rfl⟩ := h
      simpa using hm.symm
    · cases h
  | cons c text ih =>
    unfold splitFirst? at h
    split at h
    · next after' hd =>
      simp only [Option.some.injEq, Prod.mk.injEq] at h
      obtain ⟨rfl, rfl⟩ := h
      simpa using dropStart?_eq_some_iff.1 hd
    · simp only [Option.map_eq_some_iff, Prod.mk.injEq, Prod.exists] at h
      obtain ⟨b, a, hba, rfl, rfl⟩ := h
      simpa using ih hba

def splitLast? (mark : List Char) : List Char → Option (List Char × List Char)
  | [] => if mark.isEmpty then some ([], []) else none
  | c :: text =>
    match splitLast? mark text with
    | some (before, after) => some (c :: before, after)
    | none => (dropStart? mark (c :: text)).map fun after => ([], after)

end Text
end SqlTemplate
