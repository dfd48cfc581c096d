import StateChannel.Signing.Oracle

/-!
# What a course of questions is sure to give

Questions may fail, and whom they are put to may change with each of them. A course of questions is
sure of a result when it succeeds whatever state it begins in, and a course is made of its parts:
the first part is sure of something on which the rest is sure of the result.

## Main definitions

* `Signing.Ensures`: it succeeds from every state, with a result that has a property

## Main results

* `Signing.run_bind_of_ok`, `Signing.run_bind_of_error`: the rest is asked where the first part has
  succeeded, and not at all where it has failed
* `Signing.Ensures.bind`, `Signing.Ensures.adapt`: a course of its parts
-/

namespace StateChannel.Signing

variable {ε ε' σ α β : Type} {ask : ExceptT ε (StateM σ) α} {next : α → ExceptT ε (StateM σ) β}

theorem run_bind_of_ok {a : α} {state later : σ} (answered : ask.run.run state = (.ok a, later)) :
    (ask >>= next).run.run state = (next a).run.run later := by
  rw [ExceptT.run_bind, StateT.run_bind, answered]
  rfl

theorem run_bind_of_error {e : ε} {state later : σ}
    (failed : ask.run.run state = (.error e, later)) :
    (ask >>= next).run.run state = (.error e, later) := by
  rw [ExceptT.run_bind, StateT.run_bind, failed]
  rfl

/-- Applying `f` to the result does not change whether there is one. -/
theorem run_bind_pure (f : α → β) (state : σ) :
    ((ask >>= fun a => pure (f a)).run.run state).1 = (ask.run.run state).1.map f := by
  obtain ⟨answer, later, answered⟩ : ∃ answer later, ask.run.run state = (answer, later) :=
    ⟨_, _, rfl⟩
  cases answer with
  | error e => rw [run_bind_of_error answered, answered]; rfl
  | ok a => rw [run_bind_of_ok answered, answered]; rfl

/-- `report` changes the failures and nothing else, the state included. -/
theorem run_adapt (report : ε → ε') (state : σ) :
    (ask.adapt report).run.run state =
      ((ask.run.run state).1.mapError report, (ask.run.run state).2) := by
  rw [ExceptT.run_adapt, StateT.run_map]
  rfl

/-- Run in any state, `ask` succeeds with a result that satisfies `post`. -/
def Ensures (ask : ExceptT ε (StateM σ) α) (post : α → Prop) : Prop :=
  ∀ state, ∃ a later, ask.run.run state = (.ok a, later) ∧ post a

namespace Ensures

variable {post : α → Prop} {last : β → Prop}

theorem pure {a : α} (holds : post a) :
    Ensures (Pure.pure a : ExceptT ε (StateM σ) α) post :=
  fun state => ⟨a, state, rfl, holds⟩

theorem mono (ensured : Ensures ask post) {weaker : α → Prop} (implied : ∀ a, post a → weaker a) :
    Ensures ask weaker := by
  intro state
  obtain ⟨a, later, answered, holds⟩ := ensured state
  exact ⟨a, later, answered, implied a holds⟩

theorem bind (ensured : Ensures ask post) (rest : ∀ a, post a → Ensures (next a) last) :
    Ensures (ask >>= next) last := by
  intro state
  obtain ⟨a, later, answered, holds⟩ := ensured state
  rw [run_bind_of_ok answered]
  exact rest a holds later

/-- `Ensures` does not depend on how failures are reported. -/
theorem adapt (ensured : Ensures ask post) (report : ε → ε') :
    Ensures (ask.adapt report) post := by
  intro state
  obtain ⟨a, later, answered, holds⟩ := ensured state
  refine ⟨a, later, ?_, holds⟩
  rw [run_adapt, answered]
  rfl

end Ensures

end StateChannel.Signing
