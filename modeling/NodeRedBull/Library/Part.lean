import NodeRedBull.Library.Async

/-! Bodies that run on one part of a larger state. -/

namespace NodeRedBull.Library

structure Part (τ σ : Type) where
  get : τ → σ
  put : σ → τ → τ
  get_put : ∀ part whole, get (put part whole) = part
  put_get : ∀ whole, put (get whole) whole = whole
  put_put : ∀ part other whole, put part (put other whole) = put part whole

namespace Part

variable {τ σ : Type} (part : Part τ σ)

/-- The part changes as `related` says, and nothing else changes. -/
def Only (related : σ → σ → Prop) (before after : τ) : Prop :=
  related (part.get before) (part.get after) ∧ after = part.put (part.get after) before

end Part

namespace Async

variable {τ σ κ : Type} {ρ : κ → Type} {ε α : Type}

def onPart (part : Part τ σ) : Async σ κ ρ ε α → Async τ κ ρ ε α
  | .pure value => .pure value
  | .throw error => .throw error
  | .read next => .read fun whole => (next (part.get whole)).onPart part
  | .write state next => .read fun whole => .write (part.put state whole) (next.onPart part)
  | .await call next => .await call fun reply => (next reply).onPart part

variable {part : Part τ σ} {related : σ → σ → Prop} {calls : κ → Prop}

/-- What holds of a body on its part holds of it on the whole. -/
theorem framed_onPart {program : Async σ κ ρ ε α} {start now : τ}
    (framed : program.Framed related calls (part.get start) (part.get now))
    (rest : now = part.put (part.get now) start) :
    (program.onPart part).Framed (part.Only related) calls start now := by
  induction program generalizing start now with
  | pure value => exact ⟨framed, rest⟩
  | throw error => exact ⟨framed, rest⟩
  | read next ih => exact ih _ framed rest
  | write state next ih =>
    have written : next.Framed related calls (part.get start) (part.get (part.put state now)) := by
      rw [part.get_put]
      exact framed
    apply ih written
    rw [part.get_put]
    exact (congrArg (part.put state) rest).trans (part.put_put state _ start)
  | await call next ih =>
    obtain ⟨_, near, member, further⟩ := framed
    refine ⟨trivial, ⟨near, rest⟩, member, ?_⟩
    intro later _ _ reply _
    exact ih reply (further (part.get later) trivial trivial reply trivial) (part.put_get later).symm

theorem framed_weaken {σ : Type} {related wider : σ → σ → Prop} {calls others : κ → Prop}
    {program : Async σ κ ρ ε α} {base start now : σ}
    (implies : ∀ before after, related before after → wider before after)
    (members : ∀ call, calls call → others call)
    (near : ∀ after, related base after → wider start after)
    (framed : program.Framed related calls base now) : program.Framed wider others start now := by
  induction program generalizing base start now with
  | pure value => exact near _ framed
  | throw error => exact near _ framed
  | read next ih => exact ih _ near framed
  | write state next ih => exact ih near framed
  | await call next ih =>
    obtain ⟨_, moved, member, further⟩ := framed
    refine ⟨trivial, near _ moved, members call member, ?_⟩
    intro later _ _ reply _
    exact ih reply (implies later) (further later trivial trivial reply trivial)

end Async

end NodeRedBull.Library
