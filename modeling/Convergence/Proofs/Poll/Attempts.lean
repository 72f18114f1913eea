import Convergence.Proofs.Poll.Bounds
import Convergence.Proofs.Poll.Trace

/-!
# `Convergence.Proofs.Poll.Attempts`: the number of evaluations that a poll tells

A poll counts its evaluations in 32 bits, and nothing limits how many it makes: an interval of one
millisecond and a timeout of fifty days are enough for more than `2 ^ 32`, and so is a timeout of
some minutes without an interval.  What a poll tells is the number modulo `2 ^ 32`
(`waitFor_attempts`).  It is the number of evaluations as long as there are fewer than `2 ^ 32`, as
there are when the timeout holds fewer intervals than that; from then on it is too small.

The count does not end a poll or change its course, so a poll can tell a wrong number:
`not_forall_attempts_eq` is one that makes `2 ^ 32 + 1` evaluations and tells that it made one.
-/

set_option autoImplicit false

namespace Convergence.Policy

variable {σ ε : Type}

/-- A condition that never holds and takes no time is looked at on the multiples of the interval, up
to the first that is not before the deadline. -/
theorem waitFor_eq_some_of_never {p : Policy} {label : String} {condition : Condition σ ε}
    {state : σ} (hinterval : 0 < p.interval) (hle : p.interval ≤ p.timeout)
    (hnever : ∀ s t, (condition s t).1.took = 0 ∧ (condition s t).1.answer = .ok false)
    {k : Nat} (hk : p.timeout ⌈/⌉ p.interval = k) {fuel : Nat} (hfuel : k < fuel) :
    p.waitFor label condition fuel { state } = some (p.finishedAt label condition state k) := by
  obtain ⟨i, hi⟩ := p.exists_isLeast_stops condition state hinterval
  obtain rfl : i = k := by
    rw [← hk]
    exact p.eq_ceilDiv_of_isLeast condition state hinterval hi hle (fun _ _ => (hnever _ _).1)
      fun _ _ => (hnever _ _).2
  exact p.waitFor_eq_some label condition state hi.1 (fun j hj => not_stops_of_lt hi hj) hfuel

/-- **The number of evaluations, as a poll tells it.**  Take a poll that has ended, whichever way it
waits, after `k + 1` evaluations.  In every report of its trace, and in its timeout, the number of
an evaluation is told modulo `2 ^ 32`.  So if there were fewer evaluations than that, each number is
told as it is, and otherwise the timeout tells a number that is too small.  With an interval there
are no more evaluations than the timeout holds intervals, rounded up, and one more. -/
theorem waitFor_attempts (p : Policy) (label : String) (condition : Condition σ ε) (state : σ)
    {fuel : Nat} {f : Finished σ ε}
    (hf : p.waitFor label condition fuel { state } = some f ∨
      p.waitForTimer label condition fuel state = some f) :
    ∃ k, f.starts = (List.range (k + 1)).map (p.startAt condition state) ∧
      f.events = p.trace label condition state (· % UInt32.size) f.result k ∧
      (∀ c elapsed attempts, f.result = .error (.timeout c elapsed attempts) →
        attempts.toNat = (k + 1) % UInt32.size) ∧
      (k + 1 < UInt32.size →
        f.events = p.trace label condition state id f.result k ∧
          ∀ c elapsed attempts, f.result = .error (.timeout c elapsed attempts) →
            attempts.toNat = k + 1) ∧
      (UInt32.size ≤ k + 1 →
        ∀ c elapsed attempts, f.result = .error (.timeout c elapsed attempts) →
          attempts.toNat < k + 1) ∧
      (0 < p.interval → k + 1 ≤ p.timeout ⌈/⌉ p.interval + 1) := by
  obtain ⟨k, -, hk, rfl⟩ := p.exists_eq_finishedAt label condition state hf
  have htold : ∀ c elapsed attempts,
      (p.finishedAt label condition state k).result = .error (.timeout c elapsed attempts) →
        attempts.toNat = (k + 1) % UInt32.size := by
    intro c elapsed attempts hresult
    obtain ⟨-, -, -, rfl⟩ := (conclusion_eq_timeout_iff label).mp hresult
    exact toNat_attempts_eq (k + 1)
  have hevents := p.events_finishedAt label condition state hk
  refine ⟨k, rfl, hevents, htold, fun hcount => ⟨?_, ?_⟩, ?_, fun hinterval => ?_⟩
  · rw [hevents, trace_mod p label condition state hcount]
  · intro c elapsed attempts hresult
    rw [htold c elapsed attempts hresult, Nat.mod_eq_of_lt hcount]
  · intro hcount c elapsed attempts _
    exact Nat.lt_of_lt_of_le attempts.toNat_lt hcount
  · exact Nat.succ_le_succ (hk.2 (p.stops_ceilDiv condition state hinterval))

/-- Looked at every millisecond for `2 ^ 32` milliseconds, a condition that never holds has been
looked at `2 ^ 32 + 1` times. -/
theorem waitFor_fifty_days :
    waitFor ⟨.ofMillis 1, .ofMillis UInt32.size⟩ "links up"
        (fun s _ => ({ answer := .ok false }, s) : Condition Unit String) (UInt32.size + 1)
        { state := () } =
      some (finishedAt ⟨.ofMillis 1, .ofMillis UInt32.size⟩ "links up"
        (fun s _ => ({ answer := .ok false }, s)) () UInt32.size) := by
  refine waitFor_eq_some_of_never (by decide) (by decide) (fun _ _ => ⟨rfl, rfl⟩) ?_ (by decide)
  rw [Nat.ceilDiv_eq_add_pred_div]
  decide

/-- The condition that is looked at `2 ^ 32 + 1` times is told to have been looked at once. -/
theorem waitFor_attempts_wrapped :
    ∃ f : Finished Unit String,
      waitFor ⟨.ofMillis 1, .ofMillis UInt32.size⟩ "links up"
          (fun s _ => ({ answer := .ok false }, s)) (UInt32.size + 1) { state := () } = some f ∧
        f.starts.length = UInt32.size + 1 ∧
        ∀ c elapsed attempts, f.result = .error (.timeout c elapsed attempts) →
          attempts.toNat = 1 := by
  refine ⟨_, waitFor_fifty_days, length_starts_finishedAt .., ?_⟩
  obtain ⟨k, hk, -, htold, -, -, -⟩ := waitFor_attempts _ _ _ _ (.inl waitFor_fifty_days)
  obtain rfl : k = UInt32.size := by
    have hlength := congrArg List.length hk
    rw [length_starts_finishedAt, List.length_map, List.length_range] at hlength
    omega
  intro c elapsed attempts hresult
  exact htold c elapsed attempts hresult

/-- A timeout does not always tell how many evaluations there were. -/
theorem not_forall_attempts_eq :
    ¬∀ (p : Policy) (label : String) (condition : Condition Unit String) (fuel : Nat)
        (f : Finished Unit String),
      p.waitFor label condition fuel { state := () } = some f →
        ∀ c elapsed attempts, f.result = .error (.timeout c elapsed attempts) →
          attempts.toNat = f.starts.length := by
  intro h
  have hlength := h _ _ _ _ _ waitFor_fifty_days _ _ _ rfl
  rw [length_starts_finishedAt, toNat_attempts_eq] at hlength
  exact absurd hlength (by decide)

end Convergence.Policy
