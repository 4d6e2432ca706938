import NodeRedBull.ClusterPrefix
import NodeRedBull.Endpoints
import NodeRedBull.Library.Results
import NodeRedBull.Separators

/-! Endpoint lists that are given as an array of texts, against the same texts one by one. -/

namespace NodeRedBull.EndpointLists
open Js Library Connections Separators Endpoints

section Lists

variable (platform : Platform) (defaultPort : Port) (tls : Option Bool) (tlsName : String)

/-- One segment as an endpoint. -/
def parseSegment (segment : List Char) : Except JsError Endpoint :=
  parseEndpoint platform (.string (String.ofList segment)) defaultPort tls tlsName

def Rejected (segment : List Char) : Prop :=
  ∃ error, parseSegment platform defaultPort tls tlsName segment = .error error

/-- The segments of all texts, in order, as they stand between separators. -/
def segmentsOf (texts : List String) : List (List Char) :=
  texts.flatMap fun text => pieces text.toList

def isBlank (segment : List Char) : Bool := decide (JsNumber.trim segment = [])

def listOfArray (texts : List String) : Except JsError (List Endpoint) :=
  parseEndpointList platform (.array (texts.map .string)) defaultPort tls tlsName

def listOfText (text : String) : Except JsError (List Endpoint) :=
  parseEndpointList platform (.string text) defaultPort tls tlsName

/-- The lists of the texts one by one, joined. -/
def listOfTexts (texts : List String) : Except JsError (List Endpoint) :=
  (texts.mapM (listOfText platform defaultPort tls tlsName)).map List.flatten

/-! ## Segments -/

theorem parseSegment_trim (segment : List Char) :
    parseSegment platform defaultPort tls tlsName (JsNumber.trim segment) =
      parseSegment platform defaultPort tls tlsName segment := by
  have trimmed : String.ofList (JsNumber.trim segment) = trimText (String.ofList segment) := by
    rw [trimText, String.toList_ofList]
  unfold parseSegment
  rw [trimmed, parseEndpoint_trim]

theorem parseSegment_text (segment : List Char) :
    parseSegment platform defaultPort tls tlsName segment =
      ofText platform (String.ofList (JsNumber.trim segment)) defaultPort tls tlsName := by
  rw [parseSegment, parseEndpoint_text, trimText, String.toList_ofList]

theorem parseSegment_blank {segment : List Char} (blank : isBlank segment = true) :
    parseSegment platform defaultPort tls tlsName segment = .error emptyEndpoint := by
  rw [parseSegment_text, of_decide_eq_true blank]
  rfl

theorem parseSegment_ne_empty {segment : List Char} (written : isBlank segment = false)
    {error : JsError} (failed : parseSegment platform defaultPort tls tlsName segment = .error error) :
    error ≠ emptyEndpoint := by
  have some : String.ofList (JsNumber.trim segment) ≠ "" :=
    String.ofList_eq_empty_iff.not.mpr (of_decide_eq_false written)
  rw [parseSegment_text] at failed
  exact (ofText_error some failed).ne_empty

/-! ## Both ways of reading a list -/

theorem arraySegments (texts : List String) :
    ((texts.map JsValue.string).flatMap splitItem).filter JsValue.isPresent =
      (segmentsOf texts).map fun segment => .string (String.ofList segment) := by
  unfold segmentsOf
  induction texts with
  | nil => rfl
  | cons text rest ih =>
    rw [List.map_cons, List.flatMap_cons, List.flatMap_cons, List.filter_append, ih,
      List.map_append]
    congr 1
    unfold splitItem pieces
    dsimp only
    induction splitSeparators text.toList with
    | nil => rfl
    | cons piece others ih =>
      rw [List.map_cons, List.filter_cons, List.filter_cons, ih]
      by_cases empty : piece = [] <;> simp [JsValue.isPresent, nonempty, empty]

theorem parseEndpointList_array (items : List JsValue) :
    parseEndpointList platform (.array items) defaultPort tls tlsName =
      ((items.flatMap splitItem).filter JsValue.isPresent).mapM fun item =>
        parseEndpoint platform item defaultPort tls tlsName := rfl

theorem parseEndpointList_text {text : String} (some : text ≠ "") :
    parseEndpointList platform (.string text) defaultPort tls tlsName =
      (trimmedPieces text.toList).mapM (parseSegment platform defaultPort tls tlsName) := by
  unfold parseEndpointList
  simp only [JsValue.isPresent, some, ne_eq, not_false_eq_true, decide_true, Bool.not_true,
    Bool.false_eq_true, ↓reduceIte]
  rfl

theorem listOfArray_eq (texts : List String) :
    listOfArray platform defaultPort tls tlsName texts =
      (segmentsOf texts).mapM (parseSegment platform defaultPort tls tlsName) := by
  have each : (fun item => parseEndpoint platform item defaultPort tls tlsName) ∘
      (fun segment => JsValue.string (String.ofList segment)) =
        parseSegment platform defaultPort tls tlsName := by
    funext segment
    rw [Function.comp_apply, parseSegment]
  rw [listOfArray, parseEndpointList_array, arraySegments, List.mapM_map, each]

/-- Trimming the pieces first changes nothing. -/
theorem mapM_trimmed (segments : List (List Char)) :
    ((segments.map JsNumber.trim).filter nonempty).mapM
      (parseSegment platform defaultPort tls tlsName) =
        (segments.filter fun segment => !isBlank segment).mapM
          (parseSegment platform defaultPort tls tlsName) := by
  induction segments with
  | nil => rfl
  | cons segment rest ih =>
    by_cases blank : JsNumber.trim segment = []
    · simpa [nonempty, isBlank, blank] using ih
    · have kept : (((segment :: rest).map JsNumber.trim).filter nonempty) =
          JsNumber.trim segment :: (rest.map JsNumber.trim).filter nonempty := by
        simp [nonempty, blank]
      have kept' : ((segment :: rest).filter fun segment => !isBlank segment) =
          segment :: rest.filter fun segment => !isBlank segment := by
        simp [isBlank, blank]
      rw [kept, kept', List.mapM_cons, List.mapM_cons, ih, parseSegment_trim]

theorem listOfText_eq (text : String) : listOfText platform defaultPort tls tlsName text =
    ((pieces text.toList).filter fun segment => !isBlank segment).mapM
      (parseSegment platform defaultPort tls tlsName) := by
  by_cases empty : text = ""
  · rw [empty]
    rfl
  · rw [listOfText, parseEndpointList_text _ _ _ _ empty, trimmedPieces_eq, mapM_trimmed]

theorem listOfTexts_eq (texts : List String) :
    listOfTexts platform defaultPort tls tlsName texts =
      ((segmentsOf texts).filter fun segment => !isBlank segment).mapM
        (parseSegment platform defaultPort tls tlsName) := by
  unfold listOfTexts segmentsOf
  rw [funext (listOfText_eq platform defaultPort tls tlsName), List.filter_flatMap, mapM_flatMap]

/-! ## Where they differ -/

/-- A segment of whitespace makes an array fail, and only an array. -/
def BlanksLate (segments : List (List Char)) : Prop :=
  ∀ before segment after, segments = before ++ segment :: after → isBlank segment = true →
    ∃ other ∈ before, isBlank other = false ∧ Rejected platform defaultPort tls tlsName other

theorem blanksLate_cons {segment : List Char} (written : isBlank segment = false)
    (rest : List (List Char)) :
    BlanksLate platform defaultPort tls tlsName (segment :: rest) ↔
      Rejected platform defaultPort tls tlsName segment ∨
        BlanksLate platform defaultPort tls tlsName rest := by
  constructor
  · intro late
    by_cases rejected : Rejected platform defaultPort tls tlsName segment
    · exact .inl rejected
    · refine .inr fun before blank after split found => ?_
      obtain ⟨other, member, kept, failed⟩ := late (segment :: before) blank after
        (by rw [split, List.cons_append]) found
      rcases List.mem_cons.mp member with own | earlier
      · rw [own] at failed
        exact absurd failed rejected
      · exact ⟨other, earlier, kept, failed⟩
  · intro late before blank after split found
    cases before with
    | nil =>
      cases split
      rw [written] at found
      cases found
    | cons first before =>
      cases split
      rcases late with rejected | late
      · exact ⟨segment, List.mem_cons_self, written, rejected⟩
      · obtain ⟨other, member, both⟩ := late before blank after rfl found
        exact ⟨other, List.mem_cons_of_mem _ member, both⟩

theorem mapM_eq_written_iff (segments : List (List Char)) :
    segments.mapM (parseSegment platform defaultPort tls tlsName) =
      (segments.filter fun segment => !isBlank segment).mapM
        (parseSegment platform defaultPort tls tlsName) ↔
      BlanksLate platform defaultPort tls tlsName segments := by
  induction segments with
  | nil =>
    constructor
    · intro _ before segment after split
      cases before <;> cases split
    · intro _
      rfl
  | cons segment rest ih =>
    cases blank : isBlank segment with
    | true =>
      have dropped : ((segment :: rest).filter fun segment => !isBlank segment) =
          rest.filter fun segment => !isBlank segment := by simp [blank]
      rw [dropped, mapM_cons_of_error (parseSegment_blank _ _ _ _ blank)]
      constructor
      · intro same
        obtain ⟨other, member, failed⟩ := mapM_error same.symm
        have written : isBlank other = false := by simpa using (List.mem_filter.mp member).2
        exact absurd rfl (parseSegment_ne_empty _ _ _ _ written failed)
      · intro late
        obtain ⟨other, member, _⟩ := late [] segment rest rfl blank
        cases member
    | false =>
      have kept : ((segment :: rest).filter fun segment => !isBlank segment) =
          segment :: rest.filter fun segment => !isBlank segment := by simp [blank]
      rw [kept, blanksLate_cons _ _ _ _ blank]
      cases parsed : parseSegment platform defaultPort tls tlsName segment with
      | error error =>
        rw [mapM_cons_of_error parsed, mapM_cons_of_error parsed]
        exact ⟨fun _ => .inl ⟨error, parsed⟩, fun _ => rfl⟩
      | ok endpoint =>
        rw [mapM_cons_of_ok parsed, mapM_cons_of_ok parsed, map_cons_inj, ih]
        constructor
        · exact .inr
        · intro late
          rcases late with rejected | late
          · obtain ⟨error, failed⟩ := rejected
            rw [parsed] at failed
            cases failed
          · exact late

/-- Both fail, or both come to the same list. -/
def SameSuccess (left right : Except JsError (List Endpoint)) : Prop :=
  ∀ endpoints, left = .ok endpoints ↔ right = .ok endpoints

theorem sameSuccess_of_failed {left right : Except JsError (List Endpoint)} {error other : JsError}
    (failed : left = .error error) (other_failed : right = .error other) :
    SameSuccess left right := by
  intro endpoints
  rw [failed, other_failed]
  simp

/-- No segment is blank, or one that is not is rejected anyhow. -/
def BlanksHarmless (segments : List (List Char)) : Prop :=
  (∀ segment ∈ segments, isBlank segment = false) ∨
    ∃ segment ∈ segments, isBlank segment = false ∧
      Rejected platform defaultPort tls tlsName segment

theorem sameSuccess_written_iff (segments : List (List Char)) :
    SameSuccess (segments.mapM (parseSegment platform defaultPort tls tlsName))
      ((segments.filter fun segment => !isBlank segment).mapM
        (parseSegment platform defaultPort tls tlsName)) ↔
      BlanksHarmless platform defaultPort tls tlsName segments := by
  constructor
  · intro same
    by_cases written : ∀ segment ∈ segments, isBlank segment = false
    · exact .inl written
    · simp only [not_forall, Bool.not_eq_false] at written
      obtain ⟨segment, member, blank⟩ := written
      obtain ⟨error, failed⟩ := mapM_fails member (parseSegment_blank platform defaultPort tls
        tlsName blank)
      cases others : (segments.filter fun segment => !isBlank segment).mapM
          (parseSegment platform defaultPort tls tlsName) with
      | ok endpoints =>
        have claimed := (same endpoints).mpr others
        rw [failed] at claimed
        cases claimed
      | error thrown =>
        obtain ⟨other, kept, rejected⟩ := mapM_error others
        obtain ⟨found, written⟩ := List.mem_filter.mp kept
        exact .inr ⟨other, found, by simpa using written, thrown, rejected⟩
  · intro harmless
    rcases harmless with written | ⟨segment, member, written, error, rejected⟩
    · have all : (segments.filter fun segment => !isBlank segment) = segments :=
        List.filter_eq_self.mpr fun segment member => by rw [written segment member]; rfl
      rw [all]
      exact fun endpoints => Iff.rfl
    · obtain ⟨thrown, failed⟩ := mapM_fails member rejected
      have kept : segment ∈ segments.filter fun segment => !isBlank segment :=
        List.mem_filter.mpr ⟨member, by rw [written]; rfl⟩
      obtain ⟨other, other_failed⟩ := mapM_fails kept rejected
      exact sameSuccess_of_failed failed other_failed

/-- An array of texts is read like the texts one by one unless one of its segments is blank but
not empty: the array takes it for an endpoint, and a text drops it. -/
theorem array_like_texts_iff (texts : List String) :
    (SameSuccess (listOfArray platform defaultPort tls tlsName texts)
        (listOfTexts platform defaultPort tls tlsName texts) ↔
      BlanksHarmless platform defaultPort tls tlsName (segmentsOf texts)) ∧
    (listOfArray platform defaultPort tls tlsName texts =
        listOfTexts platform defaultPort tls tlsName texts ↔
      BlanksLate platform defaultPort tls tlsName (segmentsOf texts)) ∧
    ∀ text, listOfTexts platform defaultPort tls tlsName [text] =
      listOfText platform defaultPort tls tlsName text := by
  rw [listOfArray_eq, listOfTexts_eq]
  refine ⟨sameSuccess_written_iff _ _ _ _ _, mapM_eq_written_iff _ _ _ _ _, ?_⟩
  intro text
  rw [listOfTexts_eq, listOfText_eq, segmentsOf, List.flatMap_singleton]

end Lists

/-- The trailing separator is harmless in a text, but the blank after it is not in an array. -/
theorem trailing_blank : ¬ SameSuccess
    (listOfArray ClusterPrefix.noUrls defaultRedisPort none "TLS" ["10.0.0.1, "])
    (listOfTexts ClusterPrefix.noUrls defaultRedisPort none "TLS" ["10.0.0.1, "]) := by
  intro same
  have segments : segmentsOf ["10.0.0.1, "] = ["10.0.0.1".toList, " ".toList] := by decide
  have kept : (segmentsOf ["10.0.0.1, "]).filter (fun segment => !isBlank segment) =
      ["10.0.0.1".toList] := by decide
  have parsed : parseSegment ClusterPrefix.noUrls defaultRedisPort none "TLS" "10.0.0.1".toList =
      .ok ⟨"10.0.0.1", defaultRedisPort⟩ := by
    have trimmed : String.ofList (JsNumber.trim "10.0.0.1".toList) = "10.0.0.1" := by decide
    rw [parseSegment_text, trimmed, ofText, if_neg (by decide), if_pos (by decide)]
  have accepted : listOfTexts ClusterPrefix.noUrls defaultRedisPort none "TLS" ["10.0.0.1, "] =
      .ok [⟨"10.0.0.1", defaultRedisPort⟩] := by
    rw [listOfTexts_eq, kept, mapM_cons_of_ok parsed]
    rfl
  have rejected : listOfArray ClusterPrefix.noUrls defaultRedisPort none "TLS" ["10.0.0.1, "] =
      .error emptyEndpoint := by
    have blank : parseSegment ClusterPrefix.noUrls defaultRedisPort none "TLS" " ".toList =
        .error emptyEndpoint := parseSegment_blank _ _ _ _ (by decide)
    rw [listOfArray_eq, segments, mapM_cons_of_ok parsed, mapM_cons_of_error blank]
    rfl
  have claimed := (same _).mpr accepted
  rw [rejected] at claimed
  cases claimed

end NodeRedBull.EndpointLists
