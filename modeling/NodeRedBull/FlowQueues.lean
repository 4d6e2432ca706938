import NodeRedBull.FlowTrees
import Mathlib.Data.List.Forall2
import Mathlib.Data.List.Perm.Basic

/-! What the worklist of `withFlowJobDefaults` leaves in `queuesOptions`. -/

namespace NodeRedBull.FlowQueues
open Js Library Heap FlowDefaults FlowTrees

/-- `value` is no reference out of the heap. -/
def Resolved (heap : Heap) (value : Val) : Prop :=
  ∀ address, value = .ref address → address < heap.size

theorem cellAt_mono {before after : Heap} (grown : before.Extends after) {value : Val}
    (resolved : Resolved before value) : cellAt value after = cellAt value before := by
  cases value with
  | ref address =>
    have inside := resolved address rfl
    cases stored : before.read address with
    | none =>
      have outside := (before.read_eq_none_iff address).mp stored
      omega
    | some cell => exact (grown address cell stored).trans stored.symm
  | _ => rfl

theorem ownFields_mono {before after : Heap} (grown : before.Extends after) {value : Val}
    (resolved : Resolved before value) : ownFields value after = ownFields value before := by
  unfold ownFields
  rw [cellAt_mono grown resolved]

theorem getField_mono {before after : Heap} (grown : before.Extends after) {value : Val}
    (resolved : Resolved before value) (name : String) :
    getField value name after = getField value name before := by
  unfold getField
  rw [cellAt_mono grown resolved]

theorem getField_of_falsy {value : Val} (falsy : value.truthy = false) (name : String)
    (heap : Heap) : getField value name heap = .undefined := by
  cases value with
  | ref address => cases falsy
  | _ => rfl

theorem ownFields_of_falsy {value : Val} (falsy : value.truthy = false) (heap : Heap) :
    ownFields value heap = .empty := by
  cases value with
  | ref address => cases falsy
  | string text =>
    simp only [Val.truthy, decide_eq_false_iff_not, ne_eq, Decidable.not_not] at falsy
    subst falsy
    rfl
  | _ => rfl

/-- The one property that the loop sets in the options of a queue. -/
def onlyDefaults (merged : Val) : Options := fun name =>
  if name = "defaultJobOptions" then some merged else none

theorem override_onlyDefaults (given : Options) (first second : Val) :
    override (override given (onlyDefaults first)) (onlyDefaults second) =
      override given (onlyDefaults second) := by
  funext name
  by_cases special : name = "defaultJobOptions" <;> simp [override, onlyDefaults, special]

theorem mergeQueueOptions_spec {retention : Val} {defaults : Fields} {heap : Heap}
    (known : fieldsOf retention heap = some defaults) (queueOptions : Val) :
    ∃ address inner own merged after,
      mergeQueueOptions retention queueOptions heap = (.ref address, after) ∧
      heap.Extends after ∧ heap.size ≤ address ∧ heap.size ≤ inner ∧
      after.read address = some (.object own) ∧ after.read inner = some (.object merged) ∧
      own.get = override (ownFields queueOptions heap).get (onlyDefaults (.ref inner)) ∧
      merged.get = override defaults.get
        (ownFields (getField queueOptions "defaultJobOptions" heap) heap).get := by
  let merged := spread (spread .empty retention heap)
    (getField queueOptions "defaultJobOptions" heap) heap
  let middle := newObject merged heap
  let own := (spread .empty queueOptions heap).set "defaultJobOptions" middle.1
  have first : heap.Extends middle.2 := extends_newObject merged heap
  have second : middle.2.Extends (newObject own middle.2).2 := extends_newObject own middle.2
  have size : middle.2.size = heap.size + 1 := Store.size_alloc heap _
  refine ⟨middle.2.size, heap.size, own, merged, _, rfl, first.trans second, by omega, le_refl _,
    read_newObject own middle.2, second _ _ (read_newObject merged heap), ?_,
    spread_override known⟩
  funext name
  show own.get name = _
  rw [OrderedMap.get_set]
  by_cases special : name = "defaultJobOptions"
  · simp [override, onlyDefaults, special, middle]
  · simp [override, onlyDefaults, special, spread_get]

/-! ## The invariant of the loop -/

section
variable (start : Heap) (defaults given : Fields) (written : Nat)

/-- The options of queue `name` before the loop. -/
def givenQueue (name : String) : Val := (given.get name).getD .undefined

/-- What the default options of queue `name` become, when it occurs in the tree. -/
def mergedDefaults (name : String) : Options :=
  override defaults.get
    (ownFields (getField (givenQueue given name) "defaultJobOptions" start) start).get

/-- The entry `value` is what the loop makes of queue `name`. The cells it rests on are not the
cell of `queuesOptions`, which later rounds write. -/
def Merged (name : String) (now : Heap) (value : Val) : Prop :=
  ∃ address inner own merged, value = .ref address ∧ address ≠ written ∧ inner ≠ written ∧
    now.read address = some (.object own) ∧ now.read inner = some (.object merged) ∧
    own.get = override (ownFields (givenQueue given name) start).get (onlyDefaults (.ref inner)) ∧
    merged.get = mergedDefaults start defaults given name

/-- `entries` once the loop has met the queues of `met`. -/
structure Entries (met : List String) (now : Heap) (entries : Fields) : Prop where
  merged : ∀ name ∈ met, ∃ value, entries.get name = some value ∧
    Merged start defaults given written name now value
  untouched : ∀ name, name ∉ met → entries.get name = given.get name

/-- The loop has met the queues of `met`; `written` is the cell of `queuesOptions`. -/
structure Traversed (met : List String) (now : Heap) : Prop where
  fresh : start.size ≤ written
  grown : start.Extends now
  entries : ∃ entries, now.read written = some (.object entries) ∧
    Entries start defaults given written met now entries

variable {start defaults given written}

theorem Merged.frame {name : String} {now next : Heap} {value : Val}
    (same : ∀ ref cell, ref ≠ written → now.read ref = some cell → next.read ref = some cell)
    (merged : Merged start defaults given written name now value) :
    Merged start defaults given written name next value := by
  obtain ⟨address, inner, own, content, isRef, apart, innerApart, held, innerHeld, options⟩ := merged
  exact ⟨address, inner, own, content, isRef, apart, innerApart, same _ _ apart held,
    same _ _ innerApart innerHeld, options⟩

/-- The value that a round starts from: what the map holds, or a new object in its place. It
already agrees with the result, but for the defaults, which are the old or the merged ones. -/
theorem queueOptions_start {met : List String} {now : Heap} {entries : Fields} {name : String}
    (holds : Traversed start defaults given written met now)
    (current : now.read written = some (.object entries))
    (known : Entries start defaults given written met now entries)
    (resolved : Resolved start (givenQueue given name))
    (inner : Resolved start (getField (givenQueue given name) "defaultJobOptions" start)) :
    ∃ queueOptions before,
      (let found := getField (.ref written) name now
        if found.truthy then (found, now) else newObject .empty now) = (queueOptions, before) ∧
      now.Extends before ∧
      (∀ merged, override (ownFields queueOptions before).get (onlyDefaults merged) =
        override (ownFields (givenQueue given name) start).get (onlyDefaults merged)) ∧
      override defaults.get
          (ownFields (getField queueOptions "defaultJobOptions" before) before).get =
        mergedDefaults start defaults given name := by
  have found := getField_object current name
  by_cases seen : name ∈ met
  · obtain ⟨value, stored, address, deep, own, content, rfl, apart, deepApart, held, deepHeld,
      options, merged⟩ := known.merged name seen
    have value : getField (.ref written) name now = .ref address := by
      rw [found, stored]
      rfl
    have field : getField (.ref address) "defaultJobOptions" now = .ref deep := by
      rw [getField_object held, options]
      rfl
    refine ⟨.ref address, now, by simp only [value]; rfl, .refl now, ?_, ?_⟩
    · intro merged
      rw [ownFields_object held, options, override_onlyDefaults]
    · rw [field, ownFields_object deepHeld, merged]
      exact override_idem _ _
  · have value : getField (.ref written) name now = givenQueue given name := by
      rw [found, known.untouched name seen]
      rfl
    by_cases truthy : (givenQueue given name).truthy
    · refine ⟨givenQueue given name, now, by simp only [value, truthy]; rfl, .refl now, ?_, ?_⟩
      · intro merged
        rw [ownFields_mono holds.grown resolved]
      · rw [getField_mono holds.grown resolved, ownFields_mono holds.grown inner]
        rfl
    · have falsy : (givenQueue given name).truthy = false := by simpa using truthy
      have empty : ownFields (newObject .empty now).1 (newObject .empty now).2 = .empty :=
        ownFields_of_fieldsOf (fieldsOf_newObject .empty now)
      have field : getField (newObject .empty now).1 "defaultJobOptions" (newObject .empty now).2 =
          .undefined := getField_of_fieldsOf (fieldsOf_newObject .empty now) _
      refine ⟨(newObject .empty now).1, (newObject .empty now).2,
        by simp only [value, falsy]; rfl, extends_newObject .empty now, ?_, ?_⟩
      · intro merged
        rw [empty, ownFields_of_falsy falsy]
      · rw [field, mergedDefaults, getField_of_falsy falsy]
        rfl

theorem setField_read {heap : Heap} {address : Nat} {fields : Fields}
    (stored : heap.read address = some (.object fields)) (name : String) (value : Val) (ref : Nat) :
    (setField address name value heap).read ref =
      if ref = address then some (.object (fields.set name value)) else heap.read ref := by
  unfold setField
  rw [Store.read_modify, stored]
  rfl

/-- One round of the loop. -/
theorem addQueueDefaults_spec {retention job : Val} {met : List String} {now : Heap}
    {name : String} (holds : Traversed start defaults given written met now)
    (known : fieldsOf retention start = some defaults)
    (resolved : Resolved start (givenQueue given name))
    (inner : Resolved start (getField (givenQueue given name) "defaultJobOptions" start))
    (named : getField job "queueName" now = .string name) (nonempty : name ≠ "") :
    Traversed start defaults given written (name :: met)
      (addQueueDefaults retention written job now) := by
  obtain ⟨entries, current, content⟩ := holds.entries
  obtain ⟨queueOptions, before, chosen, grown, base, deep⟩ :=
    queueOptions_start holds current content resolved inner
  obtain ⟨address, merged, own, fields, after, result, further, fresh, freshInner, held, innerHeld,
    options, defaulted⟩ := mergeQueueOptions_spec
      (fieldsOf_mono (holds.grown.trans grown) known) queueOptions
  have stored : after.read written = some (.object entries) :=
    further _ _ (grown _ _ current)
  have old : written < before.size := Store.lt_size_of_read (grown _ _ current)
  have round : addQueueDefaults retention written job now =
      setField written name (.ref address) after := by
    simp only [addQueueDefaults, named, if_neg nonempty]
    simp only [chosen, result]
  have same : ∀ ref cell, ref ≠ written → now.read ref = some cell →
      (setField written name (.ref address) after).read ref = some cell := by
    intro ref cell apart read
    rw [setField_read stored, if_neg apart]
    exact further _ _ (grown _ _ read)
  rw [round]
  refine ⟨holds.fresh, ?_, entries.set name (.ref address), ?_, ?_, ?_⟩
  · intro ref cell read
    have apart : ref ≠ written := by
      have bound := Store.lt_size_of_read read
      have fresh := holds.fresh
      omega
    exact same ref cell apart (holds.grown _ _ read)
  · rw [setField_read stored, if_pos rfl]
  · intro other member
    by_cases current : other = name
    · subst current
      refine ⟨.ref address, by rw [OrderedMap.get_set, if_pos rfl], address, merged, own, fields,
        rfl, by omega, by omega, ?_, ?_, ?_, ?_⟩
      · rw [setField_read stored, if_neg (by omega)]
        exact held
      · rw [setField_read stored, if_neg (by omega)]
        exact innerHeld
      · exact options.trans (base (.ref merged))
      · exact defaulted.trans deep
    · obtain ⟨value, found, before⟩ := content.merged other (by simpa [current] using member)
      exact ⟨value, by rw [OrderedMap.get_set, if_neg current]; exact found, before.frame same⟩
  · intro other absent
    have different : other ≠ name := fun equal => absent (by simp [equal])
    rw [OrderedMap.get_set, if_neg different]
    exact content.untouched other fun member => absent (List.mem_cons_of_mem _ member)

/-! ## The loop -/

theorem represents_forest_iff (heap : Heap) (trees : List FlowTree) (values : List Val) :
    FlowTree.Represents.forest heap trees values ↔
      List.Forall₂ (FlowTree.Represents heap) trees values := by
  induction trees generalizing values with
  | nil =>
    rw [List.forall₂_nil_left_iff]
    exact Iff.rfl
  | cons tree rest ih =>
    constructor
    · intro given
      obtain ⟨first, others, rfl, head, tail⟩ := given
      exact .cons head ((ih others).mp tail)
    · intro all
      cases all with
      | cons head tail => exact ⟨_, _, rfl, head, (ih _).mpr tail⟩

theorem jobs_forest_eq (trees : List FlowTree) :
    FlowTree.jobs.forest trees = trees.flatMap FlowTree.jobs := by
  induction trees with
  | nil => rfl
  | cons tree rest ih => rw [FlowTree.jobs.forest, ih, List.flatMap_cons]

def queueNames (trees : List FlowTree) : List String :=
  (trees.flatMap FlowTree.jobs).map FlowJob.queueName

/-- What a round reads of the value on top, on the heap of that round. -/
structure Popped (heap : Heap) (tree : FlowTree) (value : Val) (job : FlowJob)
    (children : List FlowTree) : Prop where
  isObject : value.isObject = true
  jobs : tree.jobs = job :: children.flatMap FlowTree.jobs
  named : ∀ later : Heap, heap.Extends later →
    getField value "queueName" later = .string job.queueName
  pushed : ∀ later : Heap, heap.Extends later → List.Forall₂ (FlowTree.Represents heap) children
    ((items? (getField value "children" later) later).getD [])

theorem popped_of_represents {heap : Heap} :
    ∀ {tree : FlowTree} {value : Val}, tree.Represents heap value →
      ∃ job children, Popped heap tree value job children
  | .leaf job, value, ⟨fields, found, described, absent⟩ => by
    refine ⟨job, [], (isObject_of_fieldsOf found).1, rfl, ?_, ?_⟩
    · intro later grown
      rw [getField_of_fieldsOf (fieldsOf_mono grown found), described.queueName]
      rfl
    · intro later grown
      rw [getField_of_fieldsOf (fieldsOf_mono grown found), absent]
      exact .nil
  | .parent job children, value, ⟨fields, items, found, described, listed, all⟩ => by
    refine ⟨job, children, (isObject_of_fieldsOf found).1, ?_, ?_, ?_⟩
    · rw [FlowTree.jobs, jobs_forest_eq]
    · intro later grown
      rw [getField_of_fieldsOf (fieldsOf_mono grown found), described.queueName]
      rfl
    · intro later grown
      rw [getField_of_fieldsOf (fieldsOf_mono grown found), items?_mono grown listed]
      exact (represents_forest_iff heap children items).mp all

theorem perm_jobs_pushed (children rest : List FlowTree) :
    ((children.reverse ++ rest).flatMap FlowTree.jobs).Perm
      (children.flatMap FlowTree.jobs ++ rest.flatMap FlowTree.jobs) := by
  rw [List.flatMap_append]
  exact ((List.reverse_perm children).flatMap_right FlowTree.jobs).append_right _

/-- The loop ends, and has then met the queues of all jobs. -/
theorem visitPending_spec {retention : Val} (known : fieldsOf retention start = some defaults)
    (resolved : ∀ name, Resolved start (givenQueue given name))
    (inner : ∀ name, Resolved start (getField (givenQueue given name) "defaultJobOptions" start)) :
    ∀ (fuel : Nat) {trees : List FlowTree} {pending : List Val} {met : List String} {now : Heap},
      (trees.flatMap FlowTree.jobs).length ≤ fuel →
      List.Forall₂ (FlowTree.Represents start) trees pending →
      Traversed start defaults given written met now →
      ∃ after names, visitPending retention written fuel pending now = some after ∧
        Traversed start defaults given written names after ∧
        ∀ name, name ∈ names ↔ name ∈ queueNames trees ∨ name ∈ met := by
  intro fuel
  induction fuel with
  | zero =>
    intro trees pending met now enough represented holds
    cases represented with
    | nil => exact ⟨now, met, rfl, holds, by simp [queueNames]⟩
    | @cons tree value rest others head tail =>
      obtain ⟨job, children, popped⟩ := popped_of_represents head
      rw [List.flatMap_cons, popped.jobs] at enough
      cases enough
  | succ fuel ih =>
    intro trees pending met now enough represented holds
    cases represented with
    | nil => exact ⟨now, met, by rw [visitPending], holds, by simp [queueNames]⟩
    | @cons tree value rest others head tail =>
      obtain ⟨job, children, popped⟩ := popped_of_represents head
      have round := addQueueDefaults_spec holds known (resolved job.queueName)
        (inner job.queueName) (popped.named now holds.grown) job.nonempty
      have pushed := popped.pushed _ round.grown
      have all := List.rel_append (List.forall₂_reverse_iff.mpr pushed) tail
      have jobs := perm_jobs_pushed children rest
      have room : ((children.reverse ++ rest).flatMap FlowTree.jobs).length ≤ fuel := by
        rw [jobs.length_eq]
        rw [List.flatMap_cons, popped.jobs] at enough
        simp only [List.cons_append, List.length_cons] at enough
        omega
      obtain ⟨after, names, result, last, met⟩ := ih room all round
      refine ⟨after, names, ?_, last, ?_⟩
      · simp only [visitPending, popped.isObject]
        exact result
      · intro name
        have moved := (jobs.map FlowJob.queueName).mem_iff (a := name)
        rw [met, queueNames, moved]
        simp only [queueNames, List.flatMap_cons, popped.jobs, List.cons_append, List.map_cons,
          List.mem_cons]
        tauto

end

end NodeRedBull.FlowQueues
