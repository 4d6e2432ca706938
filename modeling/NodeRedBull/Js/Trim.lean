import Mathlib.Data.List.DropRight
import NodeRedBull.Js.Value

/-! What trimming leaves of a text. -/

namespace NodeRedBull.Js

namespace JsNumber

/-- A text without whitespace at its ends. -/
structure Trimmed (text : List Char) : Prop where
  head : ∀ c, text.head? = some c → isSpace c = false
  last : ∀ c, text.getLast? = some c → isSpace c = false

def Blank (text : List Char) : Prop := ∀ c ∈ text, isSpace c = true

theorem trimmed_trim (text : List Char) : Trimmed (trim text) := by
  change Trimmed ((text.dropWhile isSpace).rdropWhile isSpace)
  constructor
  · intro c first
    have fronted := List.rdropWhile_prefix isSpace (l := text.dropWhile isSpace)
    obtain ⟨tail, split⟩ := fronted
    have kept := List.head?_dropWhile_not isSpace text
    rw [← split, List.head?_append, first] at kept
    simpa using kept
  · intro c last
    have nonempty : (text.dropWhile isSpace).rdropWhile isSpace ≠ [] := by
      intro empty
      rw [empty] at last
      cases last
    have kept := List.rdropWhile_last_not isSpace _ nonempty
    rw [List.getLast?_eq_some_getLast nonempty] at last
    cases last
    simpa using kept

theorem trim_of_trimmed {text : List Char} (trimmed : Trimmed text) : trim text = text := by
  have front : text.dropWhile isSpace = text := by
    cases text with
    | nil => rfl
    | cons first rest => simp [trimmed.head first rfl]
  change (text.dropWhile isSpace).rdropWhile isSpace = text
  rw [front, List.rdropWhile_eq_self_iff]
  intro nonempty
  simp [trimmed.last _ (List.getLast?_eq_some_getLast nonempty)]

@[simp] theorem trim_trim (text : List Char) : trim (trim text) = trim text :=
  trim_of_trimmed (trimmed_trim text)

/-- `Number(text)` trims by itself. -/
theorem parse_trim (text : List Char) : parse (trim text) = parse text := by
  unfold parse
  rw [trim_trim]

/-- Whitespace around a text is trimmed away. -/
theorem trim_pad {before after : List Char} (text : List Char) (blank_before : Blank before)
    (blank_after : Blank after) : trim (before ++ text ++ after) = trim text := by
  have ends : ∀ l : List Char, (l ++ after).rdropWhile isSpace = l.rdropWhile isSpace := by
    intro l
    have reversed : ∀ c ∈ after.reverse, isSpace c = true :=
      fun c member => blank_after c (List.mem_reverse.mp member)
    unfold List.rdropWhile
    rw [List.reverse_append, List.dropWhile_append_of_pos reversed]
  change ((before ++ text ++ after).dropWhile isSpace).rdropWhile isSpace =
    (text.dropWhile isSpace).rdropWhile isSpace
  rw [List.append_assoc, List.dropWhile_append_of_pos blank_before, List.dropWhile_append]
  by_cases spaces : text.dropWhile isSpace = []
  · have gone : after.dropWhile isSpace = [] := List.dropWhile_eq_nil_iff.mpr blank_after
    simp [spaces, gone]
  · simp [spaces, ends]

theorem dropWhile_append_cons {c : Char} (kept : isSpace c = false) (before after : List Char) :
    (before ++ c :: after).dropWhile isSpace = before.dropWhile isSpace ++ c :: after := by
  rw [List.dropWhile_append]
  cases rest : before.dropWhile isSpace with
  | nil => simp [kept]
  | cons first others => simp

/-- Trimming stops at the first and the last letter that is no whitespace. -/
theorem trim_between {first last : Char} (kept : isSpace first = false)
    (kept_last : isSpace last = false) (before middle after : List Char) :
    trim (before ++ first :: (middle ++ last :: after)) =
      before.dropWhile isSpace ++ first :: (middle ++ last :: after.rdropWhile isSpace) := by
  change ((before ++ first :: (middle ++ last :: after)).dropWhile isSpace).rdropWhile isSpace = _
  rw [dropWhile_append_cons kept]
  unfold List.rdropWhile
  have reversed : (before.dropWhile isSpace ++ first :: (middle ++ last :: after)).reverse =
      after.reverse ++ last :: (before.dropWhile isSpace ++ first :: middle).reverse := by simp
  rw [reversed, dropWhile_append_cons kept_last]
  simp

end JsNumber

@[simp] theorem trimText_trimText (text : String) : trimText (trimText text) = trimText text := by
  simp [trimText]

end NodeRedBull.Js
