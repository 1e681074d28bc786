import Mathlib

/-!
# Go — handlers that share state

Each HTTP request is served by its own goroutine, and handlers that query
and write shared state (the metadata store, a VCS) interleave their steps
when requests overlap. A handler is a `Proc`: it has finished with a
result, or it will next take one atomic step on the shared state, a step
that may replace the state and whose continuation depends on the state it
saw.

`Proc.run` runs one handler alone, step after step, and `serial` runs
requests one after another. `interleave` runs handlers started together,
advancing at each turn the one a schedule names. A serial run is one such
schedule (`interleave_serialSchedule`), so whatever fails under a serial
run fails under interleaving as well, and what holds of every interleaving
holds of serial runs.
-/

namespace Bytebase.Go

/-- A handler over shared state `σ` with result `α`. -/
inductive Proc (σ α : Type) where
  | done (result : α)
  | step (update : σ → σ) (next : σ → Proc σ α)

namespace Proc

variable {σ α β : Type}

/-- One atomic step that computes a new state and a value from the state
it sees, then goes on with the value. -/
def atomic (f : σ → σ × β) (k : β → Proc σ α) : Proc σ α :=
  .step (fun s => (f s).1) (fun s => k (f s).2)

/-- One atomic step that only reads. -/
def query (q : σ → β) (k : β → Proc σ α) : Proc σ α :=
  .step id (fun s => k (q s))

/-- The handler run alone from `s`: the state it leaves and its result. -/
def run : Proc σ α → σ → σ × α
  | .done a, s => (s, a)
  | .step u k, s => (k s).run (u s)

/-- The number of steps the handler takes when it runs alone from `s`. -/
def length : Proc σ α → σ → Nat
  | .done _, _ => 0
  | .step u k, s => (k s).length (u s) + 1

/-- The handler with its result passed through `f`. -/
def map (f : α → β) : Proc σ α → Proc σ β
  | .done a => .done (f a)
  | .step u k => .step u fun s => (k s).map f

@[simp] theorem run_done (a : α) (s : σ) : (Proc.done a : Proc σ α).run s = (s, a) := rfl

@[simp] theorem run_atomic (f : σ → σ × β) (k : β → Proc σ α) (s : σ) :
    (atomic f k).run s = (k (f s).2).run (f s).1 := rfl

@[simp] theorem run_query (q : σ → β) (k : β → Proc σ α) (s : σ) : (query q k).run s = (k (q s)).run s := rfl

end Proc

section

variable {σ α : Type}

/-- One turn of the scheduler: the process at index `i` takes its next
step; a finished or absent process leaves everything as it is. -/
def advance (s : σ) (ps : List (Proc σ α)) (i : Nat) : σ × List (Proc σ α) :=
  match ps[i]? with
  | some (.step u k) => (u s, ps.set i (k s))
  | _ => (s, ps)

/-- The handlers `ps`, started together from `s`, under a schedule. -/
def interleave (s : σ) (ps : List (Proc σ α)) : List Nat → σ × List (Proc σ α)
  | [] => (s, ps)
  | i :: sched => interleave (advance s ps i).1 (advance s ps i).2 sched

/-- The handlers run one after another, each from the state the last one
left. -/
def serial (s : σ) : List (Proc σ α) → σ
  | [] => s
  | p :: ps => serial (p.run s).1 ps

/-- The schedule that runs the handlers at indices `n`, `n + 1`, … alone,
one after another, from `s`. -/
def serialScheduleFrom (s : σ) (n : Nat) : List (Proc σ α) → List Nat
  | [] => []
  | p :: ps => List.replicate (p.length s) n ++ serialScheduleFrom (p.run s).1 (n + 1) ps

/-- The serial schedule of `ps` from `s`. -/
def serialSchedule (s : σ) (ps : List (Proc σ α)) : List Nat := serialScheduleFrom s 0 ps

theorem interleave_append (s : σ) (ps : List (Proc σ α)) (a b : List Nat) :
    interleave s ps (a ++ b) = interleave (interleave s ps a).1 (interleave s ps a).2 b := by
  induction a generalizing s ps with
  | nil => rfl
  | cons i a ih => exact ih _ _

/-- Scheduling one handler for as many turns as it has steps runs it alone,
and leaves it finished in its place. -/
theorem interleave_replicate_length {ps : List (Proc σ α)} {i : Nat} {p : Proc σ α} (hp : ps[i]? = some p)
    (s : σ) : interleave s ps (List.replicate (p.length s) i) = ((p.run s).1, ps.set i (.done (p.run s).2)) := by
  induction p generalizing s ps with
  | done a =>
    have hi : i < ps.length := (List.getElem?_eq_some_iff.1 hp).1
    have : ps.set i (.done a) = ps := List.ext_getElem? fun j => by
      by_cases hij : i = j
      · subst hij; simp [hi, hp]
      · exact List.getElem?_set_ne hij
    simp [Proc.length, interleave, this]
  | step u k ih =>
    have hi : i < ps.length := (List.getElem?_eq_some_iff.1 hp).1
    have hnext : (ps.set i (k s))[i]? = some (k s) := by simp [hi]
    simp only [Proc.length, List.replicate_succ, interleave, advance, hp]
    rw [ih s hnext (u s), List.set_set]
    rfl

/-- **A serial run is an interleaving**: the serial schedule takes the
handlers, started together, to the state `serial` computes. -/
theorem interleave_serialScheduleFrom (ps : List (Proc σ α)) :
    ∀ (s : σ) (n : Nat) (qs : List (Proc σ α)), qs.drop n = ps →
      (interleave s qs (serialScheduleFrom s n ps)).1 = serial s ps := by
  induction ps with
  | nil => intro s n qs _; rfl
  | cons p ps ih =>
    intro s n qs hq
    have hp : qs[n]? = some p := by
      have h0 := List.getElem?_drop qs n 0
      rw [hq, Nat.add_zero, List.getElem?_cons_zero] at h0
      exact h0.symm
    have hrest : (qs.set n (.done (p.run s).2)).drop (n + 1) = ps := by
      rw [List.drop_set_of_lt _ _ (Nat.lt_succ_self n)]
      simpa [List.drop_drop, Nat.add_comm] using congrArg (List.drop 1) hq
    rw [serialScheduleFrom, interleave_append, interleave_replicate_length hp]
    exact ih _ _ _ hrest

theorem interleave_serialSchedule (s : σ) (ps : List (Proc σ α)) :
    (interleave s ps (serialSchedule s ps)).1 = serial s ps :=
  interleave_serialScheduleFrom ps s 0 ps rfl

end

/-! ## What every interleaving keeps -/

section Guards

variable {σ α : Type}

/-- A handler that keeps `I` and answers within `Q`: each of its steps,
from any state satisfying `I`, whatever ran before it, leaves a state
satisfying `I`, and it finishes only with a result satisfying `Q`. -/
inductive Guards (I : σ → Prop) (Q : α → Prop) : Proc σ α → Prop
  | done {a : α} (h : Q a) : Guards I Q (.done a)
  | step {u : σ → σ} {k : σ → Proc σ α} (hu : ∀ s, I s → I (u s)) (hk : ∀ s, I s → Guards I Q (k s)) :
      Guards I Q (.step u k)

variable {I : σ → Prop} {Q : α → Prop}

theorem Guards.query {β : Type} {q : σ → β} {k : β → Proc σ α} (h : ∀ s, I s → Guards I Q (k (q s))) :
    Guards I Q (Proc.query q k) :=
  .step (fun _ hs => hs) h

theorem Guards.atomic {β : Type} {f : σ → σ × β} {k : β → Proc σ α} (hf : ∀ s, I s → I (f s).1)
    (h : ∀ s, I s → Guards I Q (k (f s).2)) : Guards I Q (Proc.atomic f k) :=
  .step hf h

/-- One turn of the scheduler keeps `I`, and every handler goes on
guarding. -/
theorem advance_guards {s : σ} {ps : List (Proc σ α)} (hs : I s) (hps : ∀ p ∈ ps, Guards I Q p) (i : Nat) :
    I (advance s ps i).1 ∧ ∀ p ∈ (advance s ps i).2, Guards I Q p := by
  unfold advance
  split
  · rename_i u k hi
    cases hps _ (List.getElem?_mem hi) with
    | step hu hk =>
      refine ⟨hu s hs, fun p hp => ?_⟩
      rcases List.mem_or_eq_of_mem_set hp with hp | rfl
      · exact hps p hp
      · exact hk s hs
  · exact ⟨hs, hps⟩

/-- **Handlers that each keep `I` keep it under every interleaving**: from
a state satisfying `I`, every schedule leaves a state satisfying `I`, and
every handler, finished or not, still guards; so each finished one
answered within `Q`. -/
theorem interleave_guards (sched : List Nat) :
    ∀ (s : σ) (ps : List (Proc σ α)), I s → (∀ p ∈ ps, Guards I Q p) →
      I (interleave s ps sched).1 ∧ ∀ p ∈ (interleave s ps sched).2, Guards I Q p := by
  induction sched with
  | nil => exact fun _ _ hs hps => ⟨hs, hps⟩
  | cons i sched ih =>
    intro s ps hs hps
    obtain ⟨hs', hps'⟩ := advance_guards hs hps i
    exact ih _ _ hs' hps'

theorem Guards.map {β : Type} {R : β → Prop} {f : α → β} {p : Proc σ α} (h : Guards I Q p)
    (hf : ∀ a, Q a → R (f a)) : Guards I R (p.map f) := by
  induction h with
  | done hq => exact .done (hf _ hq)
  | step hu _ ih => exact .step hu ih

/-- A finished handler that guards answered within `Q`. -/
theorem Guards.done_iff {a : α} : Guards I Q (.done a) ↔ Q a :=
  ⟨fun | .done h => h, .done⟩

end Guards

end Bytebase.Go
