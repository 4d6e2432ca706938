import NodeRedBull.Addresses
import NodeRedBull.Js.Trim

/-! The canonical texts of IPv6 addresses, and that `isIP` takes them for addresses. -/

namespace NodeRedBull.IPv6Texts
open Js Connections Addresses

/-- An address is its eight groups. -/
structure IPv6 where
  groups : List Nat
  eight : groups.length = 8
  bounded : ∀ group ∈ groups, group < 65536

/-! ## Groups -/

/-- Lower-case hexadecimal digits, without leading zeros -/
def groupText (group : Nat) : List Char := Nat.toDigits 16 group

def joined (groups : List Nat) : List Char := [':'].intercalate (groups.map groupText)

/-- How many groups are zero from a position on. -/
def zerosAt (groups : List Nat) (start : Nat) : Nat :=
  ((groups.drop start).takeWhile fun group => decide (group = 0)).length

/-- Where the first of the longest runs of zeros begins. -/
def longestZeros (groups : List Nat) : Nat :=
  (List.range groups.length).foldl
    (fun best start => if zerosAt groups best < zerosAt groups start then start else best) 0

/-- The text: the longest run of at least two zero groups is left out. -/
def IPv6.text (address : IPv6) : List Char :=
  let start := longestZeros address.groups
  let zeros := zerosAt address.groups start
  if zeros < 2 then joined address.groups
  else joined (address.groups.take start) ++
    ':' :: ':' :: joined (address.groups.drop (start + zeros))

theorem isHexDigit_digitChar : ∀ digit < 16, JsNumber.isHexDigit (Nat.digitChar digit) = true := by
  decide

theorem isHexDigit_groupText (group : Nat) : ∀ c ∈ groupText group, JsNumber.isHexDigit c = true := by
  unfold groupText
  induction group using Nat.strongRecOn with
  | _ group ih =>
    by_cases small : group < 16
    · rw [Nat.toDigits_of_lt_base small]
      intro c member
      rw [List.mem_singleton.mp member]
      exact isHexDigit_digitChar group small
    · rw [Nat.toDigits_of_base_le (by decide) (by omega)]
      intro c member
      rcases List.mem_append.mp member with front | last
      · exact ih (group / 16) (by omega) c front
      · rw [List.mem_singleton.mp last]
        exact isHexDigit_digitChar _ (Nat.mod_lt _ (by decide))

theorem isIPv6Segment_groupText {group : Nat} (bounded : group < 65536) :
    isIPv6Segment (groupText group) = true := by
  have short : (groupText group).length ≤ 4 :=
    (Nat.length_toDigits_le_iff (by decide) (by decide)).mpr bounded
  have some : 1 ≤ (groupText group).length := Nat.length_toDigits_pos
  unfold isIPv6Segment
  rw [Bool.and_eq_true, decide_eq_true_iff, List.all_eq_true]
  exact ⟨⟨some, short⟩, isHexDigit_groupText group⟩

theorem colon_not_hex : JsNumber.isHexDigit ':' = false := by decide

theorem colon_not_mem (group : Nat) : ':' ∉ groupText group := by
  intro member
  have hex := isHexDigit_groupText group ':' member
  rw [colon_not_hex] at hex
  cases hex

theorem addressChar_joined (groups : List Nat) : ∀ c ∈ joined groups, addressChar c = true := by
  intro c member
  rcases mem_of_intercalate member with colon | inside
  · simp [addressChar, colon]
  · obtain ⟨piece, listed, inside⟩ := inside
    obtain ⟨group, -, same⟩ := List.mem_map.mp listed
    rw [← same] at inside
    exact addressChar_of_hex (isHexDigit_groupText group c inside)

theorem joined_cons_cons (first second : Nat) (rest : List Nat) :
    joined (first :: second :: rest) = groupText first ++ ':' :: joined (second :: rest) := by
  simp [joined, List.intercalate_cons_cons]

/-- The text begins with a digit of its first group. -/
theorem joined_cons (first : Nat) (rest : List Nat) :
    ∃ c letters, joined (first :: rest) = c :: letters ∧ c ≠ ':' := by
  have front : ∃ tail, joined (first :: rest) = groupText first ++ tail := by
    cases rest with
    | nil => exact ⟨[], by simp [joined]⟩
    | cons second rest => exact ⟨_, joined_cons_cons first second rest⟩
  obtain ⟨tail, split⟩ := front
  cases digits : groupText first with
  | nil => exact absurd digits Nat.toDigits_ne_nil
  | cons c letters =>
    refine ⟨c, letters ++ tail, by rw [split, digits]; rfl, fun same => ?_⟩
    apply colon_not_mem first
    rw [digits, same]
    exact List.mem_cons_self

theorem joined_ne_nil {groups : List Nat} (some : groups ≠ []) : joined groups ≠ [] := by
  cases groups with
  | nil => exact absurd rfl some
  | cons first rest =>
    obtain ⟨c, letters, split, -⟩ := joined_cons first rest
    rw [split]
    exact List.cons_ne_nil c letters

/-- The groups are counted. -/
theorem ipv6Groups_joined {groups : List Nat} (bounded : ∀ group ∈ groups, group < 65536)
    (mayEndInIPv4 : Bool) : ipv6Groups (joined groups) mayEndInIPv4 = some groups.length := by
  by_cases empty : groups = []
  · rw [empty]
    rfl
  have split : (joined groups).splitOn ':' = groups.map groupText := by
    apply List.splitOn_intercalate
    · intro piece listed
      obtain ⟨group, -, same⟩ := List.mem_map.mp listed
      rw [← same]
      exact colon_not_mem group
    · simpa using empty
  have segments : (groups.map groupText).all isIPv6Segment = true := by
    rw [List.all_eq_true]
    intro piece listed
    obtain ⟨group, member, same⟩ := List.mem_map.mp listed
    rw [← same]
    exact isIPv6Segment_groupText (bounded group member)
  unfold ipv6Groups
  rw [if_neg (joined_ne_nil empty), split]
  dsimp only
  rw [if_pos segments, List.length_map]

/-! ## The double colon -/

theorem splitDoubleColon_single {c : Char} {rest : List Char}
    (single : ¬ (c = ':' ∧ rest.head? = some ':')) :
    splitDoubleColon (c :: rest) =
      (splitDoubleColon rest).map fun parts => (c :: parts.1, parts.2) := by
  rw [splitDoubleColon.eq_def]
  split
  · rename_i same
    cases same
    exact absurd ⟨rfl, rfl⟩ single
  · rename_i same
    cases same
    rfl
  · rename_i same
    cases same

theorem splitDoubleColon_cons {c : Char} (other : c ≠ ':') (rest : List Char) :
    splitDoubleColon (c :: rest) =
      (splitDoubleColon rest).map fun parts => (c :: parts.1, parts.2) :=
  splitDoubleColon_single fun double => other double.1

theorem splitDoubleColon_colon {c : Char} (other : c ≠ ':') (rest : List Char) :
    splitDoubleColon (':' :: c :: rest) =
      (splitDoubleColon (c :: rest)).map fun parts => (':' :: parts.1, parts.2) :=
  splitDoubleColon_single fun double => other (Option.some.inj double.2)

theorem splitDoubleColon_segment {segment : List Char} (free : ':' ∉ segment) (rest : List Char) :
    splitDoubleColon (segment ++ rest) =
      (splitDoubleColon rest).map fun parts => (segment ++ parts.1, parts.2) := by
  induction segment with
  | nil => simp
  | cons c segment ih =>
    have other : c ≠ ':' := fun same => free (by rw [same]; exact List.mem_cons_self)
    rw [List.cons_append, splitDoubleColon_cons other,
      ih fun member => free (List.mem_cons_of_mem _ member), Option.map_map]
    rfl

/-- No two colons are next to each other within the groups. -/
theorem splitDoubleColon_joined {groups : List Nat} (some : groups ≠ []) (rest : List Char) :
    splitDoubleColon (joined groups ++ rest) =
      (splitDoubleColon rest).map fun parts => (joined groups ++ parts.1, parts.2) := by
  induction groups with
  | nil => exact absurd rfl some
  | cons first others ih =>
    cases others with
    | nil =>
      have single : joined [first] = groupText first := List.intercalate_singleton
      rw [single]
      exact splitDoubleColon_segment (colon_not_mem first) rest
    | cons second others =>
      have later := ih (List.cons_ne_nil _ _)
      obtain ⟨c, letters, split, other⟩ := joined_cons second others
      rw [joined_cons_cons, List.append_assoc, splitDoubleColon_segment (colon_not_mem first),
        List.cons_append]
      rw [split] at later ⊢
      rw [List.cons_append, splitDoubleColon_colon other, ← List.cons_append, later]
      cases splitDoubleColon rest with
      | none => rfl
      | some parts => simp

theorem splitDoubleColon_full {groups : List Nat} (some : groups ≠ []) :
    splitDoubleColon (joined groups) = none := by
  have split := splitDoubleColon_joined some []
  rw [List.append_nil] at split
  exact split

theorem splitDoubleColon_compressed (left : List Nat) (right : List Char) :
    splitDoubleColon (joined left ++ ':' :: ':' :: right) = some (joined left, right) := by
  by_cases empty : left = []
  · rw [empty]
    rfl
  · rw [splitDoubleColon_joined empty]
    simp [splitDoubleColon]

/-! ## Addresses -/

/-- Without a zone the whole text is the address. -/
theorem unzoned {text : List Char} (all : ∀ c ∈ text, addressChar c = true) :
    text.takeWhile (fun c => decide (c ≠ '%')) = text ∧
      text.dropWhile (fun c => decide (c ≠ '%')) = [] := by
  have other : ∀ c ∈ text, decide (c ≠ '%') = true := by
    intro c member
    rw [decide_eq_true_iff]
    intro same
    have char := all c member
    rw [same] at char
    revert char
    decide
  exact ⟨List.takeWhile_eq_self_iff.mpr other, List.dropWhile_eq_nil_iff.mpr other⟩

theorem isIPv6_full {groups : List Nat} (bounded : ∀ group ∈ groups, group < 65536)
    (eight : groups.length = 8) : isIPv6 (joined groups) = true := by
  have some : groups ≠ [] := by
    intro empty
    rw [empty] at eight
    cases eight
  obtain ⟨address, zone⟩ := unzoned (addressChar_joined groups)
  unfold isIPv6
  rw [address, zone]
  simp [splitDoubleColon_full some, ipv6Groups_joined bounded, eight]

theorem isIPv6_compressed {left right : List Nat} (bounded_left : ∀ group ∈ left, group < 65536)
    (bounded_right : ∀ group ∈ right, group < 65536) (fewer : left.length + right.length ≤ 7) :
    isIPv6 (joined left ++ ':' :: ':' :: joined right) = true := by
  have chars : ∀ c ∈ joined left ++ ':' :: ':' :: joined right, addressChar c = true := by
    intro c member
    simp only [List.mem_append, List.mem_cons] at member
    rcases member with front | colon | colon | back
    · exact addressChar_joined left c front
    · simp [addressChar, colon]
    · simp [addressChar, colon]
    · exact addressChar_joined right c back
  obtain ⟨address, zone⟩ := unzoned chars
  unfold isIPv6
  rw [address, zone]
  simp [splitDoubleColon_compressed, ipv6Groups_joined bounded_left,
    ipv6Groups_joined bounded_right, fewer]

theorem zerosAt_le (groups : List Nat) (start : Nat) :
    zerosAt groups start ≤ groups.length - start := by
  have taken := (List.takeWhile_prefix (fun group => decide (group = 0))
    (l := groups.drop start)).length_le
  rw [List.length_drop] at taken
  exact taken

/-- `isIP` accepts the canonical text of every address. -/
theorem isIPv6_text (address : IPv6) : isIPv6 address.text = true := by
  unfold IPv6.text
  dsimp only
  by_cases few : zerosAt address.groups (longestZeros address.groups) < 2
  · rw [if_pos few]
    exact isIPv6_full address.bounded address.eight
  · rw [if_neg few]
    have zeros := zerosAt_le address.groups (longestZeros address.groups)
    have eight := address.eight
    apply isIPv6_compressed
    · exact fun group member => address.bounded group (List.mem_of_mem_take member)
    · exact fun group member => address.bounded group (List.mem_of_mem_drop member)
    · rw [List.length_take, List.length_drop]
      omega

theorem addressChar_text (address : IPv6) : ∀ c ∈ address.text, addressChar c = true := by
  intro c member
  unfold IPv6.text at member
  dsimp only at member
  split at member
  · exact addressChar_joined _ c member
  · simp only [List.mem_append, List.mem_cons] at member
    rcases member with front | colon | colon | back
    · exact addressChar_joined _ c front
    · simp [addressChar, colon]
    · simp [addressChar, colon]
    · exact addressChar_joined _ c back

example : String.ofList
    (IPv6.text ⟨[0x2001, 0xdb8, 0, 0, 1, 0, 0, 2], by decide, by decide⟩) = "2001:db8::1:0:0:2" := by
  decide

end NodeRedBull.IPv6Texts
