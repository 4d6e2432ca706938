import NodeRedBull.Connections
import NodeRedBull.Js.Chars

/-! What the address tests of `node:net` say of a text. -/

namespace NodeRedBull.Addresses
open Js Connections

/-! ## Characters -/

theorem mem_of_intercalate {sep c : Char} {pieces : List (List Char)}
    (member : c ∈ [sep].intercalate pieces) : c = sep ∨ ∃ piece ∈ pieces, c ∈ piece := by
  induction pieces with
  | nil => cases member
  | cons first rest ih =>
    cases rest with
    | nil =>
      rw [List.intercalate_singleton] at member
      exact .inr ⟨first, List.mem_cons_self, member⟩
    | cons second rest =>
      rw [List.intercalate_cons_cons, List.mem_append, List.mem_append, List.mem_singleton] at member
      rcases member with (inFirst | isSep) | later
      · exact .inr ⟨first, List.mem_cons_self, inFirst⟩
      · exact .inl isSep
      · rcases ih later with isSep | inPiece
        · exact .inl isSep
        · obtain ⟨piece, listed, inside⟩ := inPiece
          exact .inr ⟨piece, List.mem_cons_of_mem _ listed, inside⟩

theorem mem_of_splitOn (sep : Char) {c : Char} {text : List Char} (member : c ∈ text) :
    c = sep ∨ ∃ piece ∈ text.splitOn sep, c ∈ piece := by
  have joined : [sep].intercalate (text.splitOn sep) = text := List.intercalate_splitOn sep
  rw [← joined] at member
  exact mem_of_intercalate member

theorem isIPv4Segment_chars {text : List Char} (segment : isIPv4Segment text = true) :
    ∀ c ∈ text, c.isDigit = true := by
  simp only [isIPv4Segment, Bool.and_eq_true] at segment
  exact List.all_eq_true.mp segment.1.1.2

theorem isIPv4_chars {text : List Char} (address : isIPv4 text = true) {c : Char}
    (member : c ∈ text) : c.isDigit = true ∨ c = '.' := by
  simp only [isIPv4, Bool.and_eq_true] at address
  rcases mem_of_splitOn '.' member with dot | inside
  · exact .inr dot
  · obtain ⟨segment, listed, inside⟩ := inside
    exact .inl (isIPv4Segment_chars (List.all_eq_true.mp address.2 segment listed) c inside)

theorem isIPv6Segment_chars {text : List Char} (segment : isIPv6Segment text = true) :
    ∀ c ∈ text, JsNumber.isHexDigit c = true := by
  simp only [isIPv6Segment, Bool.and_eq_true] at segment
  exact List.all_eq_true.mp segment.2

/-- The characters of an address without its zone. -/
def addressChar (c : Char) : Bool := JsNumber.isHexDigit c || decide (c = ':') || decide (c = '.')

theorem addressChar_of_hex {c : Char} (hex : JsNumber.isHexDigit c = true) :
    addressChar c = true := by
  simp [addressChar, hex]

theorem addressChar_of_ipv4 {c : Char} (given : c.isDigit = true ∨ c = '.') :
    addressChar c = true := by
  rcases given with digit | dot
  · exact addressChar_of_hex (by simp [JsNumber.isHexDigit, digit])
  · simp [addressChar, dot]

theorem ipv6Groups_chars {text : List Char} {mayEndInIPv4 : Bool} {count : Nat}
    (groups : ipv6Groups text mayEndInIPv4 = some count) {c : Char} (member : c ∈ text) :
    addressChar c = true := by
  unfold ipv6Groups at groups
  by_cases empty : text = []
  · rw [empty] at member
    cases member
  rw [if_neg empty] at groups
  rcases mem_of_splitOn ':' member with colon | inside
  · simp [addressChar, colon]
  obtain ⟨segment, listed, inside⟩ := inside
  by_cases hexadecimal : (text.splitOn ':').all isIPv6Segment = true
  · exact addressChar_of_hex
      (isIPv6Segment_chars (List.all_eq_true.mp hexadecimal segment listed) c inside)
  simp only [hexadecimal, Bool.false_eq_true, if_false] at groups
  by_cases mixed : (mayEndInIPv4 && (text.splitOn ':').dropLast.all isIPv6Segment &&
      isIPv4 ((text.splitOn ':').getLastD [])) = true
  · simp only [Bool.and_eq_true] at mixed
    obtain ⟨⟨-, hexadecimal⟩, last⟩ := mixed
    have nonempty : text.splitOn ':' ≠ [] := List.splitOn_ne_nil _ _
    rw [← List.dropLast_append_getLast nonempty, List.mem_append, List.mem_singleton] at listed
    rcases listed with early | isLast
    · exact addressChar_of_hex
        (isIPv6Segment_chars (List.all_eq_true.mp hexadecimal segment early) c inside)
    · rw [List.getLastD_eq_getLast?, List.getLast?_eq_some_getLast nonempty] at last
      rw [isLast] at inside
      exact addressChar_of_ipv4 (isIPv4_chars last inside)
  · rw [if_neg mixed] at groups
    cases groups

theorem splitDoubleColon_eq {text left right : List Char}
    (split : splitDoubleColon text = some (left, right)) : text = left ++ ':' :: ':' :: right := by
  fun_induction splitDoubleColon text generalizing left right with
  | case1 rest =>
    cases split
    rfl
  | case2 c rest _ ih =>
    obtain ⟨parts, found, same⟩ := Option.map_eq_some_iff.mp split
    cases same
    rw [ih found]
    rfl
  | case3 => cases split

/-- The characters of an address. -/
def ipChar (c : Char) : Bool :=
  c.isAlphanum || decide (c = '-') || decide (c = '.') || decide (c = ':') || decide (c = '%')

theorem ipChar_of_address {c : Char} (given : addressChar c = true) : ipChar c = true := by
  simp only [addressChar, Bool.or_eq_true, decide_eq_true_eq] at given
  rcases given with (hex | colon) | dot
  · simp [ipChar, JsNumber.isAlphanum_of_hex hex]
  · simp [ipChar, colon]
  · simp [ipChar, dot]

theorem isIPv6_chars {text : List Char} (address : isIPv6 text = true) {c : Char}
    (member : c ∈ text) : ipChar c = true := by
  unfold isIPv6 at address
  rw [Bool.and_eq_true] at address
  obtain ⟨zoned, grouped⟩ := address
  rw [← List.takeWhile_append_dropWhile (p := fun c => decide (c ≠ '%')) (l := text),
    List.mem_append] at member
  rcases member with front | zone
  · apply ipChar_of_address
    cases split : splitDoubleColon (text.takeWhile fun c => decide (c ≠ '%')) with
    | none =>
      rw [split] at grouped
      exact ipv6Groups_chars (beq_iff_eq.mp grouped) front
    | some parts =>
      rw [split] at grouped
      cases left : ipv6Groups parts.1 false with
      | none => simp [left] at grouped
      | some before =>
        cases right : ipv6Groups parts.2 true with
        | none => simp [left, right] at grouped
        | some behind =>
          rw [splitDoubleColon_eq split] at front
          simp only [List.mem_append, List.mem_cons] at front
          rcases front with inLeft | colon | colon | inRight
          · exact ipv6Groups_chars left inLeft
          · simp [addressChar, colon]
          · simp [addressChar, colon]
          · exact ipv6Groups_chars right inRight
  · cases kept : text.dropWhile (fun c => decide (c ≠ '%')) with
    | nil =>
      rw [kept] at zone
      cases zone
    | cons first rest =>
      have percent := List.head_dropWhile_not (fun c => decide (c ≠ '%'))
        (by rw [kept]; exact List.cons_ne_nil _ _)
      rw [kept] at zone zoned
      simp only [kept, List.head_cons, decide_eq_false_iff_not, not_not] at percent
      rcases List.mem_cons.mp zone with same | inside
      · rw [same, percent]
        rfl
      · simp only [List.tail_cons, isIPv6Zone, Bool.or_eq_true, Bool.and_eq_true,
          decide_eq_true_eq, List.cons_ne_nil, false_or, List.all_eq_true] at zoned
        have char := zoned.2 c inside
        simp only [ipChar, Bool.or_eq_true, decide_eq_true_eq]
        tauto

/-- An address has no other characters. -/
theorem isIP_chars {text : String} (address : isIP text = true) {c : Char}
    (member : c ∈ text.toList) : ipChar c = true := by
  simp only [isIP, Bool.or_eq_true] at address
  rcases address with four | six
  · exact ipChar_of_address (addressChar_of_ipv4 (isIPv4_chars four member))
  · exact isIPv6_chars six member

theorem isIP_of_other {text : String} {c : Char} (member : c ∈ text.toList)
    (other : ipChar c = false) : isIP text = false := by
  by_contra address
  rw [isIP_chars (by simpa using address) member] at other
  cases other

/-! ## Schemes -/

/-- A colon that no slash follows ends no scheme. -/
theorem hasScheme_colon {front : List Char} (free : ':' ∉ front) {next : Char}
    (other : next ≠ '/') (rest : List Char) : hasScheme (front ++ ':' :: next :: rest) = false := by
  cases front with
  | nil => rfl
  | cons head tail =>
    unfold hasScheme
    simp only [List.cons_append]
    rw [List.dropWhile_append]
    cases stopped : tail.dropWhile isSchemeChar with
    | nil => simp [isSchemeChar, List.dropWhile, other]
    | cons c remaining =>
      have different : c ≠ ':' := by
        intro same
        have listed : c ∈ tail := List.dropWhile_subset isSchemeChar
          (by rw [stopped]; exact List.mem_cons_self)
        exact free (by rw [← same]; exact List.mem_cons_of_mem _ listed)
      simp [different]

theorem hasScheme_of_no_colon {text : List Char} (free : ':' ∉ text) : hasScheme text = false := by
  cases text with
  | nil => rfl
  | cons head tail =>
    have beginning : ¬ (tail.dropWhile isSchemeChar).take 3 = [':', '/', '/'] := by
      intro same
      have listed : ':' ∈ (tail.dropWhile isSchemeChar).take 3 := by
        rw [same]
        exact List.mem_cons_self
      exact free (List.mem_cons_of_mem _ (List.dropWhile_subset _ (List.mem_of_mem_take listed)))
    unfold hasScheme
    simp [beginning]

theorem hasScheme_of_name {first : Char} {rest : List Char} (alpha : first.isAlpha = true)
    (all : ∀ c ∈ rest, isSchemeChar c = true) (tail : List Char) :
    hasScheme (first :: (rest ++ ':' :: '/' :: '/' :: tail)) = true := by
  have stopped : (rest ++ ':' :: '/' :: '/' :: tail).dropWhile isSchemeChar =
      ':' :: '/' :: '/' :: tail := by
    rw [List.dropWhile_append_of_pos all]
    rfl
  unfold hasScheme
  simp only [stopped, alpha]
  rfl

end NodeRedBull.Addresses
