import Mathlib.Data.List.TakeWhile
import NodeRedBull.Connections
import NodeRedBull.Library.Results

/-! When an accepted Cluster prefix keeps all BullMQ keys in one Redis slot. -/

namespace NodeRedBull.ClusterPrefix
open Js Library Connections

/-- The text after the first opening brace. -/
def afterBrace (text : List Char) : List Char := (text.dropWhile (fun c => decide (c ≠ '{'))).tail

/-- The Redis Cluster rule: the text between the first opening brace of a key and the first
closing brace after it, if there is any text. Otherwise the whole key is hashed. -/
def hashTag (key : List Char) : Option (List Char) :=
  if closesTag (afterBrace key) then
    some ((afterBrace key).takeWhile (fun c => decide (c ≠ '}')))
  else none

/-- The key BullMQ builds from a prefix, a queue name and a suffix. -/
def keyOf (prefixText queueName suffix : String) : List Char :=
  (prefixText ++ ":" ++ queueName ++ ":" ++ suffix).toList

/-- Every key under the prefix has one and the same tag. -/
def OneSlot (prefixText : String) : Prop :=
  ∃ tag, tag ≠ [] ∧ ∀ queueName suffix, hashTag (keyOf prefixText queueName suffix) = some tag

/-- The first opening brace of the text is not closed right away. -/
def OpensTag (text : List Char) : Prop := (afterBrace text).head? ≠ some '}'

theorem closing_of_closesTag {text : List Char} (closes : closesTag text = true) : '}' ∈ text := by
  unfold closesTag at closes
  rw [Bool.and_eq_true] at closes
  have left := of_decide_eq_true closes.2
  by_contra absent
  apply left
  rw [List.dropWhile_eq_nil_iff]
  intro c member
  apply decide_eq_true
  intro equal
  exact absent (equal ▸ member)

theorem closing_of_hasHashTag {text : List Char} (tagged : hasHashTag text = true) : '}' ∈ text := by
  induction text with
  | nil => cases tagged
  | cons c rest ih =>
    simp only [hasHashTag, Bool.or_eq_true, Bool.and_eq_true] at tagged
    apply List.mem_cons_of_mem
    rcases tagged with here | later
    · exact closing_of_closesTag here.2
    · exact ih later

/-- An accepted text has an opening brace, and a closing one after the first of them. -/
theorem braces_of_hasHashTag {text : List Char} (tagged : hasHashTag text = true) :
    '{' ∈ text ∧ '}' ∈ afterBrace text := by
  induction text with
  | nil => cases tagged
  | cons c rest ih =>
    simp only [hasHashTag, Bool.or_eq_true, Bool.and_eq_true, decide_eq_true_eq] at tagged
    by_cases opening : c = '{'
    · subst opening
      refine ⟨by simp, ?_⟩
      have inside : afterBrace ('{' :: rest) = rest := by simp [afterBrace]
      rw [inside]
      rcases tagged with here | later
      · exact closing_of_closesTag here.2
      · exact closing_of_hasHashTag later
    · have later : hasHashTag rest = true := by
        rcases tagged with here | later
        · exact absurd here.1 opening
        · exact later
      have skipped : afterBrace (c :: rest) = afterBrace rest := by simp [afterBrace, opening]
      rw [skipped]
      exact ⟨List.mem_cons_of_mem c (ih later).1, (ih later).2⟩

theorem afterBrace_append {text : List Char} (opening : '{' ∈ text) (more : List Char) :
    afterBrace (text ++ more) = afterBrace text ++ more := by
  induction text with
  | nil => cases opening
  | cons c rest ih =>
    by_cases here : c = '{'
    · simp [afterBrace, here]
    · have later : '{' ∈ rest := by
        rcases List.mem_cons.mp opening with equal | member
        · exact absurd equal.symm here
        · exact member
      have step := ih later
      unfold afterBrace at step ⊢
      simpa [here] using step

/-- What follows the closing brace does not matter to the tag. -/
theorem tag_append {text : List Char} (closing : '}' ∈ text) (more : List Char) :
    (text ++ more).takeWhile (fun c => decide (c ≠ '}')) =
        text.takeWhile (fun c => decide (c ≠ '}')) ∧
      (text ++ more).dropWhile (fun c => decide (c ≠ '}')) ≠ [] := by
  induction text with
  | nil => cases closing
  | cons c rest ih =>
    by_cases here : c = '}'
    · simp [here]
    · have later : '}' ∈ rest := by
        rcases List.mem_cons.mp closing with equal | member
        · exact absurd equal.symm here
        · exact member
      simpa [here] using ih later

theorem takeWhile_ne_nil_iff {text : List Char} (closing : '}' ∈ text) :
    text.takeWhile (fun c => decide (c ≠ '}')) ≠ [] ↔ text.head? ≠ some '}' := by
  cases text with
  | nil => cases closing
  | cons c rest =>
    by_cases here : c = '}'
    · simp [here]
    · simp [here]

theorem hashTag_append {text : List Char} (tagged : hasHashTag text = true) (more : List Char) :
    hashTag (text ++ more) =
      if (afterBrace text).head? = some '}' then none
      else some ((afterBrace text).takeWhile (fun c => decide (c ≠ '}'))) := by
  obtain ⟨opening, closing⟩ := braces_of_hasHashTag tagged
  obtain ⟨taken, dropped⟩ := tag_append closing more
  have closes : closesTag (afterBrace text ++ more) = true ↔
      (afterBrace text).head? ≠ some '}' := by
    unfold closesTag
    rw [Bool.and_eq_true, decide_eq_true_eq, decide_eq_true_eq, taken,
      takeWhile_ne_nil_iff closing]
    exact and_iff_left dropped
  unfold hashTag
  rw [afterBrace_append opening more, taken]
  by_cases empty : (afterBrace text).head? = some '}'
  · rw [if_pos empty, if_neg (fun both => closes.mp both empty)]
  · rw [if_neg empty, if_pos (closes.mpr empty)]

theorem oneSlot_iff {prefixText : String} (tagged : hasHashTag prefixText.toList = true) :
    OneSlot prefixText ↔ OpensTag prefixText.toList := by
  have keys : ∀ queueName suffix, keyOf prefixText queueName suffix =
      prefixText.toList ++ (":" ++ queueName ++ ":" ++ suffix).toList := by
    intro queueName suffix
    simp [keyOf]
  constructor
  · rintro ⟨tag, _, same⟩ empty
    have one := same "" ""
    rw [keys, hashTag_append tagged, if_pos empty] at one
    cases one
  · intro opens
    refine ⟨(afterBrace prefixText.toList).takeWhile (fun c => decide (c ≠ '}')), ?_, ?_⟩
    · exact (takeWhile_ne_nil_iff (braces_of_hasHashTag tagged).2).mpr opens
    · intro queueName suffix
      rw [keys, hashTag_append tagged, if_neg opens]

/-! ## Accepted configurations -/

theorem completed_of_accepted {platform : Platform} {config credentials : JsValue}
    {accepted : RedisConfig}
    (ok : normalizeQueueConfig platform config credentials = .ok (.redis accepted)) :
    ∃ normalized, completeDeployment normalized = .ok accepted := by
  unfold normalizeQueueConfig at ok
  obtain ⟨_, _, rest⟩ := bind_eq_ok ok
  obtain ⟨_, _, rest⟩ := bind_eq_ok rest
  obtain ⟨backend, _, chosen⟩ := bind_eq_ok rest
  cases backend with
  | postgres =>
    obtain ⟨postgres, _, built⟩ := bind_eq_ok chosen
    cases built
  | redis =>
    obtain ⟨redis, normalized, built⟩ := bind_eq_ok chosen
    cases built
    unfold normalizeRedisConfig at normalized
    obtain ⟨deployment, _, rest⟩ := bind_eq_ok normalized
    obtain ⟨port, _, rest⟩ := bind_eq_ok rest
    obtain ⟨queueName, _, rest⟩ := bind_eq_ok rest
    obtain ⟨defaults, _, rest⟩ := bind_eq_ok rest
    obtain ⟨clusterNodes, _, rest⟩ := bind_eq_ok rest
    obtain ⟨sentinels, _, completed⟩ := bind_eq_ok rest
    exact ⟨_, completed⟩

theorem tagged_of_completed {normalized accepted : RedisConfig}
    (completed : completeDeployment normalized = .ok accepted)
    (cluster : accepted.deployment = .cluster) :
    accepted.prefixValue.truthy = true ∧ hasHashTag accepted.prefixValue.toText.toList = true := by
  unfold completeDeployment at completed
  cases kind : normalized.deployment with
  | single =>
    simp only [kind, Except.ok.injEq] at completed
    subst completed
    rw [kind] at cluster
    cases cluster
  | cluster =>
    simp only [kind] at completed
    split at completed
    next tagged =>
      cases completed
      refine ⟨?_, tagged⟩
      simp only [JsValue.orElse]
      split
      next truthy => exact truthy
      next => rfl
    next => cases completed
  | sentinel =>
    simp only [kind] at completed
    split at completed
    next => cases completed
    next =>
      cases completed
      cases cluster

/-- All keys under the prefix of an accepted Cluster configuration are in one slot exactly when
the first opening brace of the prefix is not closed right away, and BullMQ gets that prefix. -/
theorem accepted_prefix_oneSlot_iff {platform : Platform} {config credentials : JsValue}
    {accepted : RedisConfig}
    (ok : normalizeQueueConfig platform config credentials = .ok (.redis accepted))
    (cluster : accepted.deployment = .cluster) :
    (OneSlot accepted.prefixValue.toText ↔ OpensTag accepted.prefixValue.toText.toList) ∧
      ∀ connection telemetry role,
        (buildBullMQOptions (.redis accepted) connection telemetry role).prefixOption =
          some accepted.prefixValue := by
  obtain ⟨normalized, completed⟩ := completed_of_accepted ok
  obtain ⟨truthy, tagged⟩ := tagged_of_completed completed cluster
  refine ⟨oneSlot_iff tagged, ?_⟩
  intro connection telemetry role
  simp [buildBullMQOptions, QueueConfig.prefixValue, truthy]

/-- No URL is parsed when both endpoint lists are blank. -/
def noUrls : Platform := ⟨fun _ => none⟩

def clusterConfig (prefixText : String) : JsValue :=
  .object [("name", .string "orders"), ("deployment", .string "cluster"),
    ("prefix", .string prefixText)]

theorem accepted_prefix_oneSlot_bull : ∃ accepted,
    normalizeQueueConfig noUrls (clusterConfig "queues:{bull}") .undefined = .ok (.redis accepted) ∧
      OneSlot accepted.prefixValue.toText := by
  obtain ⟨accepted, ok, cluster, opens⟩ : ∃ accepted,
      normalizeQueueConfig noUrls (clusterConfig "queues:{bull}") .undefined = .ok (.redis accepted) ∧
        accepted.deployment = .cluster ∧ OpensTag accepted.prefixValue.toText.toList := by
    refine ⟨_, rfl, rfl, ?_⟩
    unfold OpensTag
    decide
  exact ⟨accepted, ok, (accepted_prefix_oneSlot_iff ok cluster).1.mpr opens⟩

/-- An empty tag in front of the real one is accepted, and then the whole key is hashed. -/
theorem empty_tag_accepted : ∃ accepted,
    normalizeQueueConfig noUrls (clusterConfig "{}{a}") .undefined = .ok (.redis accepted) ∧
      accepted.deployment = .cluster ∧ ¬OneSlot accepted.prefixValue.toText := by
  refine ⟨_, rfl, rfl, ?_⟩
  intro given
  obtain ⟨tag, _, same⟩ := given
  have whole : hashTag (keyOf "{}{a}" "orders" "wait") = none := by decide
  cases whole.symm.trans (same "orders" "wait")

end NodeRedBull.ClusterPrefix
