import NodeRedBull.Connections
import NodeRedBull.Js.Trim

/-! The pieces of a text between its commas and newlines. -/

namespace NodeRedBull.Separators
open Js Connections

def nonempty (piece : List Char) : Bool := decide (piece ≠ [])

theorem filter_cons_nil (pieces : List (List Char)) :
    ([] :: pieces).filter nonempty = pieces.filter nonempty := rfl

/-- A run of separators is one cut, and an empty piece at most. -/
theorem go_skip_filter (text : List Char) :
    (∀ piece, (splitSeparators.go text piece).filter nonempty =
      (List.splitOnPPrepend isSeparator text piece).filter nonempty) ∧
    (splitSeparators.skip text).filter nonempty =
      (text.splitOnP isSeparator).filter nonempty := by
  induction text with
  | nil => exact ⟨fun _ => rfl, rfl⟩
  | cons c rest ih =>
    obtain ⟨going, skipping⟩ := ih
    constructor
    · intro piece
      rw [List.splitOnPPrepend_cons_eq_if]
      unfold splitSeparators.go
      by_cases cut : isSeparator c = true
      · rw [if_pos cut, if_pos cut, List.filter_cons, List.filter_cons, skipping]
      · rw [if_neg cut, if_neg cut]
        exact going (c :: piece)
    · rw [List.splitOnP_cons_eq_if_splitOnPPrepend]
      unfold splitSeparators.skip
      by_cases cut : isSeparator c = true
      · rw [if_pos cut, if_pos cut, filter_cons_nil]
        exact skipping
      · rw [if_neg cut, if_neg cut]
        exact going [c]

/-- The pieces that are not empty. -/
def pieces (text : List Char) : List (List Char) := (splitSeparators text).filter nonempty

theorem pieces_eq_splitOnP (text : List Char) :
    pieces text = (text.splitOnP isSeparator).filter nonempty :=
  (go_skip_filter text).1 []

theorem pieces_append_separator {c : Char} (cut : isSeparator c = true) (before after : List Char) :
    pieces (before ++ c :: after) = pieces before ++ pieces after := by
  rw [pieces_eq_splitOnP, pieces_eq_splitOnP, pieces_eq_splitOnP,
    List.splitOnP_append_cons _ _ cut, List.filter_append]

def Unseparated (text : List Char) : Prop := ∀ c ∈ text, isSeparator c = false

theorem pieces_of_unseparated {text : List Char} (whole : Unseparated text) (some : text ≠ []) :
    pieces text = [text] := by
  rw [pieces_eq_splitOnP, List.splitOnP_eq_singleton whole]
  simp [nonempty, some]

/-- The pieces that are empty before they are trimmed are so afterwards. -/
theorem filter_map_trim (pieces : List (List Char)) :
    ((pieces.filter nonempty).map JsNumber.trim).filter nonempty =
      (pieces.map JsNumber.trim).filter nonempty := by
  induction pieces with
  | nil => rfl
  | cons piece rest ih =>
    cases piece with
    | nil => exact ih
    | cons c piece =>
      have kept : ((c :: piece) :: rest).filter nonempty =
          (c :: piece) :: rest.filter nonempty := rfl
      rw [kept, List.map_cons, List.map_cons, List.filter_cons, List.filter_cons, ih]

/-- `.map(trim).filter(Boolean)` of the pieces -/
def trimmedPieces (text : List Char) : List (List Char) :=
  ((splitSeparators text).map JsNumber.trim).filter nonempty

theorem trimmedPieces_eq (text : List Char) :
    trimmedPieces text = ((pieces text).map JsNumber.trim).filter nonempty :=
  (filter_map_trim (splitSeparators text)).symm

theorem trimmedPieces_append_separator {c : Char} (cut : isSeparator c = true)
    (before after : List Char) :
    trimmedPieces (before ++ c :: after) = trimmedPieces before ++ trimmedPieces after := by
  rw [trimmedPieces_eq, trimmedPieces_eq, trimmedPieces_eq, pieces_append_separator cut,
    List.map_append, List.filter_append]

/-! ## Entries among separators and whitespace -/

theorem trimmedPieces_of_unseparated {text : List Char} (whole : Unseparated text) :
    trimmedPieces text = [JsNumber.trim text].filter nonempty := by
  rw [trimmedPieces_eq]
  by_cases empty : text = []
  · subst empty
    rfl
  · rw [pieces_of_unseparated whole empty]
    rfl

/-- A text has no separator, or a first one. -/
theorem first_separator (text : List Char) :
    Unseparated text ∨ ∃ before c after, text = before ++ c :: after ∧ Unseparated before ∧
      isSeparator c = true := by
  induction text with
  | nil => exact .inl fun c member => by cases member
  | cons first rest ih =>
    cases cut : isSeparator first with
    | true => exact .inr ⟨[], first, rest, rfl, (fun c member => by cases member), cut⟩
    | false =>
      rcases ih with whole | split
      · exact .inl (List.forall_mem_cons.mpr ⟨cut, whole⟩)
      · obtain ⟨before, c, after, same, whole, separator⟩ := split
        exact .inr ⟨first :: before, c, after, by rw [same]; rfl,
          List.forall_mem_cons.mpr ⟨cut, whole⟩, separator⟩

/-- Whitespace and separators -/
def Filler (text : List Char) : Prop :=
  ∀ c ∈ text, JsNumber.isSpace c = true ∨ isSeparator c = true

theorem trimmedPieces_cons_space {c : Char} (space : JsNumber.isSpace c = true)
    (text : List Char) : trimmedPieces (c :: text) = trimmedPieces text := by
  cases cut : isSeparator c with
  | true => exact trimmedPieces_append_separator cut [] text
  | false =>
    have trimmed : ∀ piece : List Char, JsNumber.trim (c :: piece) = JsNumber.trim piece := by
      intro piece
      unfold JsNumber.trim
      rw [List.dropWhile_cons, if_pos space]
    have whole : ∀ piece, Unseparated piece → Unseparated (c :: piece) :=
      fun piece free => List.forall_mem_cons.mpr ⟨cut, free⟩
    rcases first_separator text with free | split
    · rw [trimmedPieces_of_unseparated (whole text free), trimmedPieces_of_unseparated free, trimmed]
    · obtain ⟨before, d, after, same, free, separator⟩ := split
      rw [same, trimmedPieces_append_separator separator before after, ← List.cons_append,
        trimmedPieces_append_separator separator (c :: before) after,
        trimmedPieces_of_unseparated (whole before free), trimmedPieces_of_unseparated free, trimmed]

theorem trimmedPieces_filler_append {filler : List Char} (fills : Filler filler)
    (text : List Char) : trimmedPieces (filler ++ text) = trimmedPieces text := by
  induction filler with
  | nil => rfl
  | cons c rest ih =>
    have later := ih fun d member => fills d (List.mem_cons_of_mem _ member)
    rcases fills c List.mem_cons_self with space | cut
    · calc trimmedPieces (c :: (rest ++ text))
          = trimmedPieces (rest ++ text) := trimmedPieces_cons_space space _
        _ = trimmedPieces text := later
    · calc trimmedPieces (c :: (rest ++ text))
          = trimmedPieces [] ++ trimmedPieces (rest ++ text) :=
            trimmedPieces_append_separator cut [] _
        _ = trimmedPieces text := later

theorem trimmedPieces_filler {filler : List Char} (fills : Filler filler) :
    trimmedPieces filler = [] := by
  have same := trimmedPieces_filler_append fills []
  rw [List.append_nil] at same
  exact same

/-- A text that is one entry: no separators, and no whitespace at its ends. -/
structure IsEntry (text : List Char) : Prop where
  nonempty : text ≠ []
  whole : Unseparated text
  trimmed : JsNumber.Trimmed text

theorem trimmedPieces_entry {entry blank : List Char} (isEntry : IsEntry entry)
    (fills : Filler blank) (whole : Unseparated blank) : trimmedPieces (entry ++ blank) = [entry] := by
  have spaces : JsNumber.Blank blank := by
    intro c member
    rcases fills c member with space | cut
    · exact space
    · rw [whole c member] at cut
      cases cut
  have joined : Unseparated (entry ++ blank) :=
    List.forall_mem_append.mpr ⟨isEntry.whole, whole⟩
  have trimmed : JsNumber.trim (entry ++ blank) = entry := by
    have nothing : JsNumber.Blank [] := fun c member => by cases member
    have pad := JsNumber.trim_pad entry nothing spaces
    rw [List.nil_append] at pad
    rw [pad, JsNumber.trim_of_trimmed isEntry.trimmed]
  rw [trimmedPieces_of_unseparated joined, trimmed]
  simp [Separators.nonempty, isEntry.nonempty]

/-- The separator behind an entry ends it. -/
theorem trimmedPieces_entry_gap {entry gap : List Char} (isEntry : IsEntry entry)
    (fills : Filler gap) (cut : ∃ c ∈ gap, isSeparator c = true) (rest : List Char) :
    trimmedPieces (entry ++ (gap ++ rest)) = entry :: trimmedPieces rest := by
  rcases first_separator gap with whole | split
  · obtain ⟨c, member, separator⟩ := cut
    rw [whole c member] at separator
    cases separator
  · obtain ⟨before, c, after, same, whole, separator⟩ := split
    have front : Filler before := fun d member =>
      fills d (by rw [same]; exact List.mem_append_left _ member)
    have back : Filler after := fun d member =>
      fills d (by rw [same]; exact List.mem_append_right _ (List.mem_cons_of_mem _ member))
    have text : entry ++ (gap ++ rest) = (entry ++ before) ++ c :: (after ++ rest) := by
      rw [same]
      simp
    rw [text, trimmedPieces_append_separator separator, trimmedPieces_entry isEntry front whole,
      trimmedPieces_filler_append back, List.singleton_append]

theorem trimmedPieces_entry_last {entry filler : List Char} (isEntry : IsEntry entry)
    (fills : Filler filler) : trimmedPieces (entry ++ filler) = [entry] := by
  by_cases cut : ∃ c ∈ filler, isSeparator c = true
  · have ended := trimmedPieces_entry_gap isEntry fills cut []
    rw [List.append_nil] at ended
    exact ended
  · apply trimmedPieces_entry isEntry fills
    intro c member
    by_contra separator
    exact cut ⟨c, member, by simpa using separator⟩

end NodeRedBull.Separators
