import NodeRedBull.EndpointLists
import NodeRedBull.IPv6Texts
import NodeRedBull.Js.Decimal

/-! The texts that endpoints are written as, and that parsing reads them back. -/

namespace NodeRedBull.EndpointTexts
open Js Library Connections Endpoints Separators Addresses IPv6Texts

/-! ## Written endpoints -/

def nameChar (c : Char) : Bool :=
  c.isAlphanum || decide (c = '-') || decide (c = '_') || decide (c = '.')

/-- IPv4 addresses are among the names. -/
inductive Host where
  | name (letters : List Char) (nonempty : letters ≠ [])
      (all : ∀ c ∈ letters, nameChar c = true)
  | ipv6 (address : IPv6)

/-- The host alone -/
def Host.letters : Host → List Char
  | .name letters _ _ => letters
  | .ipv6 address => address.text

/-- The host in front of a port or in a URL -/
def Host.bracketed : Host → List Char
  | .name letters _ _ => letters
  | .ipv6 address => '[' :: (address.text ++ [']'])

inductive Form where
  | hostAndPort
  | url (secure writesPort : Bool)
  | bare

/-- An endpoint as it is written in a list: `run` are the separators in front of it, unless it is
the first one. -/
structure Entry where
  host : Host
  port : Port
  form : Form
  run : List Char
  before : List Char
  after : List Char

namespace Entry

def endpoint (entry : Entry) : Endpoint := ⟨String.ofList entry.host.letters, entry.port⟩

def portLetters (entry : Entry) : List Char := ':' :: Nat.toDigits 10 entry.port.number

def writesPort (entry : Entry) : Bool :=
  match entry.form with
  | .hostAndPort => true
  | .url _ writesPort => writesPort
  | .bare => false

/-- The URL has the scheme `rediss`. -/
def secure (entry : Entry) : Bool :=
  match entry.form with
  | .url secure _ => secure
  | _ => false

def protocol (entry : Entry) : List Char :=
  if entry.secure then "rediss:".toList else "redis:".toList

/-- The host and the port, if it is written. -/
def authority (entry : Entry) : List Char :=
  entry.host.bracketed ++ if entry.writesPort then entry.portLetters else []

def urlLetters (entry : Entry) : List Char := entry.protocol ++ '/' :: '/' :: entry.authority

def letters (entry : Entry) : List Char :=
  match entry.form with
  | .hostAndPort => entry.authority
  | .url _ _ => entry.urlLetters
  | .bare => entry.host.letters

/-- The form suits the default port and the TLS setting. -/
def Suits (defaultPort : Port) (tls : Option Bool) (entry : Entry) : Prop :=
  match entry.form with
  | .hostAndPort => True
  | .url secure writesPort =>
    (tls = none ∨ tls = some secure) ∧ (writesPort = false → entry.port = defaultPort)
  | .bare => entry.port = defaultPort

structure Placed (entry : Entry) : Prop where
  run : entry.run ≠ [] ∧ ∀ c ∈ entry.run, isSeparator c = true
  before : JsNumber.Blank entry.before
  after : JsNumber.Blank entry.after

/-- The URL that the entry is read as. -/
def parsed (entry : Entry) : ParsedUrl where
  protocol := String.ofList entry.protocol
  username := ""
  password := ""
  hostname := String.ofList entry.host.bracketed
  port := if entry.writesPort then String.ofList (Nat.toDigits 10 entry.port.number) else ""

/-- What is assumed of the URL class: it reads the written host and the written port. -/
def ReadByUrl (platform : Platform) (entry : Entry) : Prop :=
  isIP (String.ofList entry.letters) = false →
    platform.url (String.ofList entry.urlLetters) = some entry.parsed

end Entry

/-- The text of a list -/
def textOf : List Entry → List Char
  | [] => []
  | first :: rest => first.before ++ (first.letters ++ (first.after ++ tailOf rest))
where
  tailOf : List Entry → List Char
    | [] => []
    | next :: rest => next.run ++ (next.before ++ (next.letters ++ (next.after ++ tailOf rest)))

/-! ## Characters -/

/-- The characters of an entry -/
def Visible (c : Char) : Prop := 33 ≤ c.toNat ∧ c.toNat ≤ 126 ∧ c ≠ ','

instance (c : Char) : Decidable (Visible c) :=
  inferInstanceAs (Decidable (33 ≤ c.toNat ∧ c.toNat ≤ 126 ∧ c ≠ ','))

theorem nameChar_visible {c : Char} (char : nameChar c = true) : Visible c := by
  simp only [nameChar, Bool.or_eq_true, decide_eq_true_eq, isAlphanum_iff] at char
  rcases char with ((alphanum | hyphen) | underscore) | dot
  · refine ⟨by omega, by omega, fun same => ?_⟩
    have comma : ','.toNat = 44 := rfl
    rw [same] at alphanum
    omega
  · rw [hyphen]
    decide
  · rw [underscore]
    decide
  · rw [dot]
    decide

theorem nameChar_of_digit {c : Char} (digit : c.isDigit = true) : nameChar c = true := by
  have alphanum : c.isAlphanum = true := by
    rw [isDigit_iff] at digit
    rw [isAlphanum_iff]
    omega
  simp [nameChar, alphanum]

theorem addressChar_visible {c : Char} (char : addressChar c = true) : Visible c := by
  simp only [addressChar, Bool.or_eq_true, decide_eq_true_eq] at char
  rcases char with (hex | colon) | dot
  · apply nameChar_visible
    simp [nameChar, JsNumber.isAlphanum_of_hex hex]
  · rw [colon]
    decide
  · rw [dot]
    decide

theorem visible_bracketed (host : Host) : ∀ c ∈ host.bracketed, Visible c := by
  cases host with
  | name letters nonempty all => exact fun c member => nameChar_visible (all c member)
  | ipv6 address =>
    unfold Host.bracketed
    rw [List.forall_mem_cons, List.forall_mem_append, List.forall_mem_singleton]
    exact ⟨by decide, fun c member => addressChar_visible (addressChar_text address c member),
      by decide⟩

theorem visible_letters (host : Host) : ∀ c ∈ host.letters, Visible c := by
  cases host with
  | name letters nonempty all => exact fun c member => nameChar_visible (all c member)
  | ipv6 address => exact fun c member => addressChar_visible (addressChar_text address c member)

theorem visible_authority (entry : Entry) : ∀ c ∈ entry.authority, Visible c := by
  unfold Entry.authority
  rw [List.forall_mem_append]
  refine ⟨visible_bracketed entry.host, ?_⟩
  cases entry.writesPort with
  | false => exact fun c member => by cases member
  | true =>
    rw [if_pos rfl]
    unfold Entry.portLetters
    rw [List.forall_mem_cons]
    exact ⟨by decide, fun c member =>
      nameChar_visible (nameChar_of_digit (JsNumber.isDigit_toDigits c member))⟩

theorem visible_protocol (entry : Entry) : ∀ c ∈ entry.protocol, Visible c := by
  have all : ∀ letters : List Char, (letters.all fun c => decide (Visible c)) = true →
      ∀ c ∈ letters, Visible c :=
    fun letters each c member => of_decide_eq_true (List.all_eq_true.mp each c member)
  unfold Entry.protocol
  split
  · exact all _ (by decide)
  · exact all _ (by decide)

theorem visible_entry (entry : Entry) : ∀ c ∈ entry.letters, Visible c := by
  unfold Entry.letters
  split
  · exact visible_authority entry
  · unfold Entry.urlLetters
    rw [List.forall_mem_append, List.forall_mem_cons, List.forall_mem_cons]
    exact ⟨visible_protocol entry, by decide, by decide, visible_authority entry⟩
  · exact visible_letters entry.host

theorem Visible.notSpace {c : Char} (visible : Visible c) : JsNumber.isSpace c = false :=
  JsNumber.isSpace_of_visible visible.1 visible.2.1

theorem Visible.notSeparator {c : Char} (visible : Visible c) : isSeparator c = false := by
  unfold isSeparator
  rw [decide_eq_false_iff_not]
  intro either
  rcases either with newline | comma
  · have code : '\n'.toNat = 10 := rfl
    have low := visible.1
    rw [newline, code] at low
    omega
  · exact visible.2.2 comma

theorem isEntry_of_visible {text : List Char} (nonempty : text ≠ [])
    (visible : ∀ c ∈ text, Visible c) : IsEntry text where
  nonempty := nonempty
  whole c member := (visible c member).notSeparator
  trimmed := ⟨fun c first => (visible c (List.mem_of_head? first)).notSpace,
    fun c last => (visible c (List.mem_of_getLast? last)).notSpace⟩

theorem bracketed_ne_nil (host : Host) : host.bracketed ≠ [] := by
  cases host with
  | name letters nonempty all => exact nonempty
  | ipv6 address => exact List.cons_ne_nil _ _

theorem text_ne_nil (address : IPv6) : address.text ≠ [] := by
  intro empty
  have accepted := isIPv6_text address
  rw [empty] at accepted
  revert accepted
  decide

theorem letters_ne_nil (host : Host) : host.letters ≠ [] := by
  cases host with
  | name letters nonempty all => exact nonempty
  | ipv6 address => exact text_ne_nil address

theorem entry_ne_nil (entry : Entry) : entry.letters ≠ [] := by
  unfold Entry.letters
  split
  · exact List.append_ne_nil_of_left_ne_nil (bracketed_ne_nil entry.host) _
  · exact List.append_ne_nil_of_right_ne_nil _ (List.cons_ne_nil _ _)
  · exact letters_ne_nil entry.host

theorem isEntry (entry : Entry) : IsEntry entry.letters :=
  isEntry_of_visible (entry_ne_nil entry) (visible_entry entry)

/-! ## One entry -/

theorem colon_not_name {letters : List Char} (all : ∀ c ∈ letters, nameChar c = true) :
    ':' ∉ letters := by
  intro member
  have char := all ':' member
  revert char
  decide

theorem colon_not_digit (n : Nat) : ':' ∉ Nat.toDigits 10 n := by
  intro member
  have digit := JsNumber.isDigit_toDigits ':' member
  revert digit
  decide

/-- A port that is read back. -/
theorem toPort_digits (port defaultPort : Port) :
    toPort (.string (String.ofList (Nat.toDigits 10 port.number))) defaultPort = .ok port := by
  have written : String.ofList (Nat.toDigits 10 port.number) ≠ "" :=
    String.ofList_eq_empty_iff.not.mpr Nat.toDigits_ne_nil
  have present : (JsValue.string (String.ofList (Nat.toDigits 10 port.number))).isPresent = true :=
    decide_eq_true written
  have number : (JsValue.string (String.ofList (Nat.toDigits 10 port.number))).toNumber =
      .finite port.number := by
    change JsNumber.parse (String.ofList _).toList = _
    rw [String.toList_ofList]
    have valid := port.valid
    exact JsNumber.parse_toDigits (by omega) (by omega)
  unfold toPort
  rw [present, number]
  simp only [Bool.not_true, Bool.false_eq_true, if_false, Rat.num_natCast, Int.toNat_natCast]
  exact dif_pos ⟨Rat.den_natCast port.number, port.valid⟩

theorem not_isIPv4_colon (before after : List Char) : isIPv4 (before ++ ':' :: after) = false := by
  by_contra address
  have char := isIPv4_chars (by simpa using address)
    (List.mem_append_right before List.mem_cons_self)
  exact absurd char (by decide)

section Named
variable {letters : List Char} (all : ∀ c ∈ letters, nameChar c = true) (n : Nat)
include all

theorem percent_not_named : '%' ∉ letters ++ ':' :: Nat.toDigits 10 n := by
  rw [List.mem_append, List.mem_cons]
  intro member
  rcases member with front | colon | digits
  · exact absurd (all '%' front) (by decide)
  · exact absurd colon (by decide)
  · exact absurd (JsNumber.isDigit_toDigits '%' digits) (by decide)

/-- The digits keep the colon single. -/
theorem splitDoubleColon_named : splitDoubleColon (letters ++ ':' :: Nat.toDigits 10 n) = none := by
  have digits := splitDoubleColon_segment (colon_not_digit n) []
  rw [List.append_nil] at digits
  rw [splitDoubleColon_segment (colon_not_name all)]
  cases written : Nat.toDigits 10 n with
  | nil => exact absurd written Nat.toDigits_ne_nil
  | cons first rest =>
    have other : first ≠ ':' := by
      intro same
      apply colon_not_digit n
      rw [written, same]
      exact List.mem_cons_self
    rw [written] at digits
    rw [splitDoubleColon_colon other, digits]
    rfl

theorem ipv6Groups_named : ipv6Groups (letters ++ ':' :: Nat.toDigits 10 n) true ≠ some 8 := by
  have split : (letters ++ ':' :: Nat.toDigits 10 n).splitOn ':' =
      [letters, Nat.toDigits 10 n] := by
    rw [List.splitOn_append_cons_self_of_not_mem (colon_not_name all),
      List.splitOn_eq_singleton (colon_not_digit n)]
  unfold ipv6Groups
  rw [if_neg (List.append_ne_nil_of_right_ne_nil _ (List.cons_ne_nil _ _)), split]
  dsimp only
  split
  · simp
  · split
    · simp
    · simp

/-- A name with a port has one colon, and is no address. -/
theorem not_isIP_named : isIP (String.ofList (letters ++ ':' :: Nat.toDigits 10 n)) = false := by
  have noZone : ∀ c ∈ letters ++ ':' :: Nat.toDigits 10 n, decide (c ≠ '%') = true := by
    intro c member
    rw [decide_eq_true_iff]
    exact ne_of_mem_of_not_mem member (percent_not_named all n)
  have six : isIPv6 (letters ++ ':' :: Nat.toDigits 10 n) = false := by
    unfold isIPv6
    dsimp only
    rw [List.takeWhile_eq_self_iff.mpr noZone, splitDoubleColon_named all n]
    simp [ipv6Groups_named all n]
  unfold isIP
  rw [String.toList_ofList, not_isIPv4_colon, six]
  rfl

end Named

/-- Of the written forms only a bare address is an address. -/
theorem bare_of_isIP {entry : Entry} (address : isIP (String.ofList entry.letters) = true) :
    entry.form = .bare := by
  have absent : ∀ c ∈ entry.letters, ipChar c = true := by
    intro c member
    exact isIP_chars address (by rw [String.toList_ofList]; exact member)
  cases form : entry.form with
  | bare => rfl
  | url secure writesPort =>
    have slash : '/' ∈ entry.letters := by
      unfold Entry.letters
      rw [form]
      exact List.mem_append_right _ List.mem_cons_self
    exact absurd (absent '/' slash) (by decide)
  | hostAndPort =>
    have written : entry.writesPort = true := by
      unfold Entry.writesPort
      rw [form]
    have letters : entry.letters = entry.host.bracketed ++ entry.portLetters := by
      unfold Entry.letters
      rw [form]
      unfold Entry.authority
      rw [written]
      rfl
    cases host : entry.host with
    | name name nonempty all =>
      rw [letters, host] at address
      have other := not_isIP_named all entry.port.number
      unfold Host.bracketed Entry.portLetters at address
      rw [address] at other
      cases other
    | ipv6 literal =>
      have bracket : '[' ∈ entry.letters := by
        rw [letters, host]
        exact List.mem_append_left _ List.mem_cons_self
      exact absurd (absent '[' bracket) (by decide)

/-- A bare entry that is no address is a name. -/
theorem name_of_bare {entry : Entry} (other : isIP (String.ofList entry.letters) = false)
    (bare : entry.form = .bare) :
    ∃ name nonempty all, entry.host = .name name nonempty all := by
  cases host : entry.host with
  | name name nonempty all => exact ⟨name, nonempty, all, rfl⟩
  | ipv6 literal =>
    have accepted : isIP (String.ofList entry.letters) = true := by
      unfold isIP Entry.letters
      rw [bare, host]
      unfold Host.letters
      rw [String.toList_ofList, isIPv6_text, Bool.or_true]
    rw [accepted] at other
    cases other

/-- The entry is written as a URL. -/
def Entry.isUrl (entry : Entry) : Bool :=
  match entry.form with
  | .url _ _ => true
  | _ => false

theorem hasScheme_url (entry : Entry) : hasScheme entry.urlLetters = true := by
  have named : ∀ (rest tail : List Char), (rest.all isSchemeChar) = true →
      hasScheme ('r' :: (rest ++ ':' :: '/' :: '/' :: tail)) = true :=
    fun rest tail all => hasScheme_of_name (by decide) (List.all_eq_true.mp all) tail
  unfold Entry.urlLetters Entry.protocol
  split
  · exact named ['e', 'd', 'i', 's', 's'] entry.authority (by decide)
  · exact named ['e', 'd', 'i', 's'] entry.authority (by decide)

theorem hasScheme_entry {entry : Entry} (other : isIP (String.ofList entry.letters) = false) :
    hasScheme entry.letters = entry.isUrl := by
  cases form : entry.form with
  | url secure writesPort =>
    unfold Entry.letters Entry.isUrl
    rw [form]
    exact hasScheme_url entry
  | bare =>
    obtain ⟨name, nonempty, all, host⟩ := name_of_bare other form
    unfold Entry.letters Entry.isUrl
    rw [form, host]
    exact hasScheme_of_no_colon (colon_not_name all)
  | hostAndPort =>
    unfold Entry.letters Entry.isUrl Entry.authority Entry.writesPort
    rw [form]
    dsimp only
    rw [if_pos rfl]
    cases entry.host with
    | ipv6 literal => rfl
    | name name nonempty all =>
      unfold Host.bracketed Entry.portLetters
      cases digits : Nat.toDigits 10 entry.port.number with
      | nil => exact absurd digits Nat.toDigits_ne_nil
      | cons first rest =>
        have digit := JsNumber.isDigit_toDigits first (by rw [digits]; exact List.mem_cons_self)
        have notSlash : first ≠ '/' := by
          intro same
          rw [same] at digit
          exact absurd digit (by decide)
        exact hasScheme_colon (colon_not_name all) notSlash rest

/-- The URL class gets the entry as a URL. -/
theorem urlText_entry {entry : Entry} (other : isIP (String.ofList entry.letters) = false) :
    urlText (String.ofList entry.letters) = String.ofList entry.urlLetters := by
  have schemed := hasScheme_entry other
  have plain : entry.isUrl = false → entry.letters = entry.authority →
      entry.protocol = "redis:".toList →
      urlText (String.ofList entry.letters) = String.ofList entry.urlLetters := by
    intro notUrl letters protocol
    unfold urlText
    rw [String.toList_ofList, schemed, notUrl, if_neg Bool.false_ne_true, ← String.toList_inj,
      String.toList_append, String.toList_ofList, String.toList_ofList]
    unfold Entry.urlLetters
    rw [protocol, letters, String.toList_ofList]
    rfl
  cases form : entry.form with
  | url secure writesPort =>
    have isUrl : entry.isUrl = true := by
      unfold Entry.isUrl
      rw [form]
    unfold urlText
    rw [String.toList_ofList, schemed, isUrl, if_pos rfl]
    unfold Entry.letters
    rw [form]
  | hostAndPort =>
    apply plain
    · unfold Entry.isUrl
      rw [form]
    · unfold Entry.letters
      rw [form]
    · unfold Entry.protocol Entry.secure
      rw [form]
      exact if_neg Bool.false_ne_true
  | bare =>
    apply plain
    · unfold Entry.isUrl
      rw [form]
    · obtain ⟨name, nonempty, all, host⟩ := name_of_bare other form
      unfold Entry.letters Entry.authority Entry.writesPort
      rw [form, host]
      exact (List.append_nil name).symm
    · unfold Entry.protocol Entry.secure
      rw [form]
      exact if_neg Bool.false_ne_true

theorem stripBrackets_bracketed (host : Host) : stripBrackets host.bracketed = host.letters := by
  cases host with
  | ipv6 address =>
    unfold stripBrackets Host.bracketed Host.letters
    simp
  | name letters nonempty all =>
    have other : ∀ c ∈ letters, c ≠ '[' ∧ c ≠ ']' := by
      intro c member
      constructor
      · intro same
        exact absurd (same ▸ all c member) (by decide)
      · intro same
        exact absurd (same ▸ all c member) (by decide)
    have last : letters.getLast? ≠ some ']' := fun same =>
      (other ']' (List.mem_of_getLast? same)).2 rfl
    unfold stripBrackets Host.bracketed Host.letters
    dsimp only
    split
    · exact absurd rfl (other '[' List.mem_cons_self).1
    · exact if_neg last

section
variable {platform : Platform} {defaultPort : Port} {tls : Option Bool} {tlsName : String}

theorem protocol_parsed (entry : Entry) :
    entry.parsed.protocol = if entry.secure then "rediss:" else "redis:" := by
  unfold Entry.parsed Entry.protocol
  cases entry.secure <;> rfl

theorem secureUrl_parsed (entry : Entry) : secureUrl entry.parsed = entry.secure := by
  unfold secureUrl
  rw [protocol_parsed]
  cases entry.secure <;> rfl

theorem urlHost_parsed (entry : Entry) :
    urlHost entry.parsed = String.ofList entry.host.letters := by
  unfold urlHost Entry.parsed
  rw [String.toList_ofList, stripBrackets_bracketed]

/-- Only a written scheme has to agree with the TLS setting. -/
theorem agrees_of_suits {entry : Entry} (suits : entry.Suits defaultPort tls) :
    (entry.isUrl && tls == some (!entry.secure)) = false := by
  unfold Entry.Suits at suits
  unfold Entry.isUrl Entry.secure
  cases form : entry.form with
  | url secure writesPort =>
    rw [form] at suits
    rcases suits.1 with none | same
    · rw [none]
      rfl
    · rw [same]
      cases secure <;> rfl
  | _ => rfl

theorem port_eq_default {entry : Entry} (suits : entry.Suits defaultPort tls)
    (omitted : entry.writesPort = false) : entry.port = defaultPort := by
  unfold Entry.Suits at suits
  unfold Entry.writesPort at omitted
  cases form : entry.form with
  | hostAndPort =>
    rw [form] at omitted
    cases omitted
  | url secure writesPort =>
    rw [form] at omitted suits
    exact suits.2 omitted
  | bare =>
    rw [form] at suits
    exact suits

theorem toPort_parsed {entry : Entry} (suits : entry.Suits defaultPort tls) :
    toPort (.string entry.parsed.port) defaultPort = .ok entry.port := by
  unfold Entry.parsed
  cases written : entry.writesPort with
  | true => exact toPort_digits entry.port defaultPort
  | false =>
    rw [port_eq_default suits written]
    rfl

theorem ofUrl_entry {entry : Entry} (suits : entry.Suits defaultPort tls)
    (other : isIP (String.ofList entry.letters) = false) :
    ofUrl (String.ofList entry.letters) defaultPort tls tlsName entry.parsed =
      .ok entry.endpoint := by
  have known : ¬ (entry.parsed.protocol ≠ "redis:" ∧ entry.parsed.protocol ≠ "rediss:") := by
    rw [protocol_parsed]
    cases entry.secure <;> simp
  have noUser : ¬ (entry.parsed.username ≠ "" ∨ entry.parsed.password ≠ "") := by
    simp [Entry.parsed]
  have named : String.ofList entry.host.letters ≠ "" :=
    String.ofList_eq_empty_iff.not.mpr (letters_ne_nil entry.host)
  unfold ofUrl
  rw [if_neg known, if_neg noUser, secureUrl_parsed, urlHost_parsed, String.toList_ofList,
    hasScheme_entry other, agrees_of_suits suits, if_neg Bool.false_ne_true, if_neg named,
    toPort_parsed suits]
  rfl

theorem parseEndpoint_entry {entry : Entry} (suits : entry.Suits defaultPort tls)
    (reads : entry.ReadByUrl platform) :
    parseEndpoint platform (.string (String.ofList entry.letters)) defaultPort tls tlsName =
      .ok entry.endpoint := by
  have trimmed : trimText (String.ofList entry.letters) = String.ofList entry.letters := by
    rw [trimText, String.toList_ofList, JsNumber.trim_of_trimmed (isEntry entry).trimmed]
  have written : String.ofList entry.letters ≠ "" :=
    String.ofList_eq_empty_iff.not.mpr (entry_ne_nil entry)
  rw [parseEndpoint_text, trimmed]
  unfold ofText
  rw [if_neg written]
  cases address : isIP (String.ofList entry.letters) with
  | true =>
    have bare := bare_of_isIP address
    unfold Entry.Suits at suits
    rw [bare] at suits
    rw [if_pos rfl]
    unfold Entry.letters Entry.endpoint
    rw [bare, suits]
  | false =>
    rw [if_neg Bool.false_ne_true, urlText_entry address, reads address]
    exact ofUrl_entry suits address

/-! ## Lists -/

theorem filler_of_blank {text : List Char} (blank : JsNumber.Blank text) : Filler text :=
  fun c member => .inl (blank c member)

/-- The entries behind an entry, up to whitespace at the end. -/
theorem trimmedPieces_tail {entries : List Entry} (placed : ∀ entry ∈ entries, entry.Placed)
    {first after trailing : List Char} (isEntry : IsEntry first) (gap : JsNumber.Blank after)
    (blank : JsNumber.Blank trailing) :
    trimmedPieces (first ++ (after ++ (textOf.tailOf entries ++ trailing))) =
      first :: entries.map Entry.letters := by
  induction entries generalizing first after with
  | nil =>
    exact trimmedPieces_entry_last isEntry
      (List.forall_mem_append.mpr ⟨filler_of_blank gap, filler_of_blank blank⟩)
  | cons next rest ih =>
    have own := placed next List.mem_cons_self
    have others := ih (fun entry member => placed entry (List.mem_cons_of_mem _ member))
      (EndpointTexts.isEntry next) own.after
    have fills : Filler (after ++ (next.run ++ next.before)) := by
      unfold Filler
      rw [List.forall_mem_append, List.forall_mem_append]
      exact ⟨filler_of_blank gap, fun c member => .inr (own.run.2 c member),
        filler_of_blank own.before⟩
    have cut : ∃ c ∈ after ++ (next.run ++ next.before), isSeparator c = true := by
      have some := List.head_mem own.run.1
      exact ⟨_, List.mem_append_right _ (List.mem_append_left _ some), own.run.2 _ some⟩
    calc trimmedPieces (first ++ (after ++ (textOf.tailOf (next :: rest) ++ trailing)))
        = trimmedPieces (first ++ ((after ++ (next.run ++ next.before)) ++
            (next.letters ++ (next.after ++ (textOf.tailOf rest ++ trailing))))) := by
          simp only [textOf.tailOf, List.append_assoc]
      _ = first :: trimmedPieces
            (next.letters ++ (next.after ++ (textOf.tailOf rest ++ trailing))) :=
          trimmedPieces_entry_gap isEntry fills cut _
      _ = first :: (next :: rest).map Entry.letters := by rw [others, List.map_cons]

theorem trimmedPieces_textOf {entries : List Entry} (placed : ∀ entry ∈ entries, entry.Placed)
    {trailing : List Char} (blank : JsNumber.Blank trailing) :
    trimmedPieces (textOf entries ++ trailing) = entries.map Entry.letters := by
  cases entries with
  | nil => exact trimmedPieces_filler (filler_of_blank blank)
  | cons first rest =>
    have own := placed first List.mem_cons_self
    have text : textOf (first :: rest) ++ trailing = first.before ++ (first.letters ++
        (first.after ++ (textOf.tailOf rest ++ trailing))) := by
      simp only [textOf, List.append_assoc]
    rw [text, trimmedPieces_filler_append (filler_of_blank own.before), List.map_cons]
    exact trimmedPieces_tail (fun entry member => placed entry (List.mem_cons_of_mem _ member))
      (isEntry first) own.after blank

theorem parseEndpointList_pieces (text : List Char) :
    parseEndpointList platform (.string (String.ofList text)) defaultPort tls tlsName =
      (trimmedPieces text).mapM
        (EndpointLists.parseSegment platform defaultPort tls tlsName) := by
  by_cases empty : text = []
  · rw [empty]
    rfl
  · have some : String.ofList text ≠ "" := String.ofList_eq_empty_iff.not.mpr empty
    rw [EndpointLists.parseEndpointList_text _ _ _ _ some, String.toList_ofList]

/-- Parsing undoes writing: whatever form each endpoint has, and whatever whitespace and separators
stand between them. -/
theorem parseEndpointList_textOf {entries : List Entry} {trailing : List Char}
    (placed : ∀ entry ∈ entries, entry.Placed) (blank : JsNumber.Blank trailing)
    (suits : ∀ entry ∈ entries, entry.Suits defaultPort tls)
    (reads : ∀ entry ∈ entries, entry.ReadByUrl platform) :
    parseEndpointList platform (.string (String.ofList (textOf entries ++ trailing))) defaultPort
      tls tlsName = .ok (entries.map Entry.endpoint) := by
  have each : (entries.map Entry.letters).mapM
      (EndpointLists.parseSegment platform defaultPort tls tlsName) =
        .ok (entries.map Entry.endpoint) := by
    rw [mapM_eq_ok_iff, List.forall₂_map_left_iff, List.forall₂_map_right_iff, List.forall₂_same]
    intro entry member
    exact parseEndpoint_entry (suits entry member) (reads entry member)
  calc parseEndpointList platform (.string (String.ofList (textOf entries ++ trailing))) defaultPort
        tls tlsName
      = (trimmedPieces (textOf entries ++ trailing)).mapM
          (EndpointLists.parseSegment platform defaultPort tls tlsName) :=
        parseEndpointList_pieces _
    _ = (entries.map Entry.letters).mapM
          (EndpointLists.parseSegment platform defaultPort tls tlsName) := by
        rw [trimmedPieces_textOf placed blank]
    _ = .ok (entries.map Entry.endpoint) := each

end

/-! ## Three entries -/

def hostA : Entry :=
  ⟨.name "host-a".toList (by decide) (List.all_eq_true.mp (by decide)), ⟨6380, by decide⟩,
    .hostAndPort, [','], [], []⟩

def localhost : IPv6 := ⟨[0, 0, 0, 0, 0, 0, 0, 1], by decide, by decide⟩

def secureLocalhost : Entry :=
  ⟨.ipv6 localhost, ⟨7000, by decide⟩, .url true true, ['\n', ','], [' '], ['\t']⟩

def bareLocalhost : Entry := ⟨.ipv6 localhost, defaultRedisPort, .bare, [','], [], []⟩

/-- The URL class on these texts. -/
def urls : Platform where
  url text :=
    if text = "redis://host-a:6380" then some ⟨"redis:", "", "", "host-a", "6380"⟩
    else if text = "rediss://[::1]:7000" then some ⟨"rediss:", "", "", "[::1]", "7000"⟩
    else none

theorem placed_of_all {entry : Entry} (some : entry.run ≠ [])
    (run : (entry.run.all isSeparator) = true)
    (blank : (entry.before.all JsNumber.isSpace && entry.after.all JsNumber.isSpace) = true) :
    entry.Placed := by
  rw [Bool.and_eq_true] at blank
  exact ⟨⟨some, List.all_eq_true.mp run⟩, List.all_eq_true.mp blank.1, List.all_eq_true.mp blank.2⟩

theorem readByUrl_hostA : hostA.ReadByUrl urls := by
  intro other
  have text : String.ofList hostA.urlLetters = "redis://host-a:6380" := by decide
  have protocol : String.ofList hostA.protocol = "redis:" := by decide
  have host : String.ofList hostA.host.bracketed = "host-a" := by decide
  have port : String.ofList (Nat.toDigits 10 hostA.port.number) = "6380" := by decide
  have written : hostA.writesPort = true := rfl
  unfold Entry.parsed
  rw [text, protocol, host, port, if_pos written]
  rfl

theorem readByUrl_secureLocalhost : secureLocalhost.ReadByUrl urls := by
  intro other
  have text : String.ofList secureLocalhost.urlLetters = "rediss://[::1]:7000" := by decide
  have protocol : String.ofList secureLocalhost.protocol = "rediss:" := by decide
  have host : String.ofList secureLocalhost.host.bracketed = "[::1]" := by decide
  have port : String.ofList (Nat.toDigits 10 secureLocalhost.port.number) = "7000" := by decide
  have written : secureLocalhost.writesPort = true := rfl
  unfold Entry.parsed
  rw [text, protocol, host, port, if_pos written]
  rfl

theorem readByUrl_bareLocalhost : bareLocalhost.ReadByUrl urls := by
  intro other
  have address : isIP (String.ofList bareLocalhost.letters) = true := by decide
  rw [address] at other
  cases other

theorem parseEndpointList_textOf_three :
    parseEndpointList urls (.string "host-a:6380\n, rediss://[::1]:7000\t,::1 ") defaultRedisPort
      (some true) "TLS" =
        .ok [⟨"host-a", ⟨6380, by decide⟩⟩, ⟨"::1", ⟨7000, by decide⟩⟩,
          ⟨"::1", defaultRedisPort⟩] := by
  have text : "host-a:6380\n, rediss://[::1]:7000\t,::1 " =
      String.ofList (textOf [hostA, secureLocalhost, bareLocalhost] ++ [' ']) := by decide
  have endpoints : [⟨"host-a", ⟨6380, by decide⟩⟩, ⟨"::1", ⟨7000, by decide⟩⟩,
      ⟨"::1", defaultRedisPort⟩] =
      [hostA, secureLocalhost, bareLocalhost].map Entry.endpoint := rfl
  rw [text, endpoints]
  apply parseEndpointList_textOf
  · rw [List.forall_mem_cons, List.forall_mem_cons, List.forall_mem_singleton]
    exact ⟨placed_of_all (by decide) (by decide) (by decide),
      placed_of_all (by decide) (by decide) (by decide),
      placed_of_all (by decide) (by decide) (by decide)⟩
  · exact List.all_eq_true.mp (by decide)
  · rw [List.forall_mem_cons, List.forall_mem_cons, List.forall_mem_singleton]
    exact ⟨trivial, ⟨.inr rfl, fun absent => by cases absent⟩, rfl⟩
  · rw [List.forall_mem_cons, List.forall_mem_cons, List.forall_mem_singleton]
    exact ⟨readByUrl_hostA, readByUrl_secureLocalhost, readByUrl_bareLocalhost⟩

end NodeRedBull.EndpointTexts
