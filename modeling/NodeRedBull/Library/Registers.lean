import Mathlib.Logic.Function.Basic

/-! One visible register that serves many keys: what belongs to the other keys is kept aside. It
behaves as if every key had a register of its own. -/

namespace NodeRedBull.Library

variable {Key Value : Type} [DecidableEq Key]

inductive RegisterEvent (Key Value : Type) where
  | write (value : Value)
  | select (key : Key)

/-- A register for every key. What is written goes to the selected one. -/
structure Registers (Key Value : Type) where
  selected : Key
  values : Key → Value

namespace Registers

def step (registers : Registers Key Value) : RegisterEvent Key Value → Registers Key Value
  | .write value =>
    { registers with values := Function.update registers.values registers.selected value }
  | .select key => { registers with selected := key }

def run (registers : Registers Key Value) (events : List (RegisterEvent Key Value)) :
    Registers Key Value :=
  events.foldl step registers

/-- What was written while this key was selected. -/
def writesTo (key : Key) : Key → List (RegisterEvent Key Value) → List Value
  | _, [] => []
  | selected, .write value :: rest =>
    if selected = key then value :: writesTo key selected rest else writesTo key selected rest
  | _, .select next :: rest => writesTo key next rest

/-- A register has what was written to it last. -/
theorem values_run (registers : Registers Key Value) (events : List (RegisterEvent Key Value))
    (key : Key) : (registers.run events).values key =
      (writesTo key registers.selected events).getLast?.getD (registers.values key) := by
  induction events generalizing registers with
  | nil => rfl
  | cons event rest ih =>
    have first : registers.run (event :: rest) = (registers.step event).run rest := rfl
    rw [first, ih]
    cases event with
    | select next => rfl
    | write value =>
      change (writesTo key registers.selected rest).getLast?.getD
        (Function.update registers.values registers.selected value key) = _
      by_cases own : registers.selected = key
      · rw [writesTo, if_pos own, List.getLast?_cons, Option.getD_some, ← own,
          Function.update_self]
      · rw [writesTo, if_neg own, Function.update_of_ne (Ne.symm own)]

end Registers

/-- The values of the keys that are not active are kept aside. -/
structure Multiplexer (Key Value : Type) where
  active : Key
  shown : Value
  aside : Key → Value

namespace Multiplexer

def step (multiplexer : Multiplexer Key Value) :
    RegisterEvent Key Value → Multiplexer Key Value
  | .write value => { multiplexer with shown := value }
  | .select key =>
    if key = multiplexer.active then multiplexer
    else
      let aside := Function.update multiplexer.aside multiplexer.active multiplexer.shown
      { active := key, shown := aside key, aside }

def run (multiplexer : Multiplexer Key Value) (events : List (RegisterEvent Key Value)) :
    Multiplexer Key Value :=
  events.foldl step multiplexer

/-- The registers that it stands for; what it has aside for the active key is stale. -/
def registers (multiplexer : Multiplexer Key Value) : Registers Key Value :=
  ⟨multiplexer.active,
    Function.update multiplexer.aside multiplexer.active multiplexer.shown⟩

theorem values_active (multiplexer : Multiplexer Key Value) :
    multiplexer.registers.values multiplexer.active = multiplexer.shown :=
  Function.update_self _ _ _

theorem registers_step (multiplexer : Multiplexer Key Value) (event : RegisterEvent Key Value) :
    (multiplexer.step event).registers = multiplexer.registers.step event := by
  cases event with
  | write value =>
    have replaced : Function.update (Function.update multiplexer.aside multiplexer.active
        multiplexer.shown) multiplexer.active value =
        Function.update multiplexer.aside multiplexer.active value :=
      Function.update_idem _ _ _
    exact congrArg (Registers.mk multiplexer.active) replaced.symm
  | select key =>
    unfold step
    dsimp only
    split
    next same =>
      rw [same]
      rfl
    next =>
      let aside := Function.update multiplexer.aside multiplexer.active multiplexer.shown
      have kept : Function.update aside key (aside key) = aside := Function.update_eq_self key aside
      exact congrArg (Registers.mk key) kept

theorem registers_run (multiplexer : Multiplexer Key Value)
    (events : List (RegisterEvent Key Value)) :
    (multiplexer.run events).registers = multiplexer.registers.run events := by
  induction events generalizing multiplexer with
  | nil => rfl
  | cons event rest ih =>
    have first : multiplexer.run (event :: rest) = (multiplexer.step event).run rest := rfl
    rw [first, ih, registers_step]
    rfl

/-- What was written last while the key that is active now was active is shown. -/
theorem shown_run (multiplexer : Multiplexer Key Value)
    (events : List (RegisterEvent Key Value)) :
    (multiplexer.run events).shown =
      (Registers.writesTo (multiplexer.run events).active multiplexer.active events).getLast?.getD
        (multiplexer.registers.values (multiplexer.run events).active) := by
  rw [← values_active, registers_run]
  exact Registers.values_run multiplexer.registers events _

end Multiplexer

end NodeRedBull.Library
