import Mathlib.Data.List.Perm.Basic
import SiteServer.Concurrency.Crowd

/-!
# No permit beside a sleeper

However threads come to a semaphore, sleep, are called, wake for no reason and run out of time,
no permit is granted twice and none is forgotten.  `Crowd.wakeups_kept` says so of every run:
the permits are those there were and those that were added less those that were granted, and
while anyone sleeps there are no more of them than threads that were called and are not yet back.

Each of the two is a matter of one move.  What a move can do is said once (`Effect`,
`Crowd.effect_of_step`): permits are added, a thread that has come to the lock takes one unless
there is none (`Settles`), or nothing happens at the lock at all.  The second property
(`Attended`) does not say who takes a permit.  A newcomer may be faster than the thread that was
called; then there is one permit less, and no more sleepers are unattended than before.
-/

namespace SiteServer
namespace Semaphore

variable {s s₀ s' : Semaphore} {o : Outcome} {w : Waiter}

/-! ## At the lock -/

/-- A thread has come to the lock: it is no longer among those that sleep or were called. -/
structure Approach (s s₀ : Semaphore) : Prop where
  permits_eq : s₀.permits = s.permits
  sleeping : s₀.sleeping ≠ [] → s.sleeping ≠ []
  woken_le : s.woken.length ≤ s₀.woken.length + 1

/-- The thread at the lock has taken a permit, or there was none. -/
def Settles (s : Semaphore) (o : Outcome) (s' : Semaphore) : Prop :=
  (o = .granted ∧ s.permits ≠ 0 ∧ s' = { s with permits := s.permits - 1 }) ∨
    (o ≠ .granted ∧ s.permits = 0 ∧ s'.permits = 0)

theorem Approach.refl (s : Semaphore) : Approach s s := ⟨rfl, id, Nat.le_succ _⟩

theorem approach_of_sleeping (s : Semaphore) (w : Waiter) :
    Approach s { s with sleeping := s.sleeping.erase w } where
  permits_eq := rfl
  sleeping hrest hnone := hrest (by rw [hnone]; rfl)
  woken_le := Nat.le_succ _

theorem approach_of_woken (hw : w ∈ s.woken) :
    Approach s { s with woken := s.woken.erase w } where
  permits_eq := rfl
  sleeping := id
  woken_le := by
    have hlength := List.length_erase_of_mem hw
    simp only
    omega

theorem settles_takeOrSleep (s : Semaphore) (w : Waiter) :
    Settles s (s.takeOrSleep w).1 (s.takeOrSleep w).2 := by
  unfold takeOrSleep
  by_cases hnone : s.permits = 0
  · rw [if_pos hnone]
    exact Or.inr ⟨by simp, hnone, hnone⟩
  · rw [if_neg hnone]
    exact Or.inl ⟨rfl, hnone, rfl⟩

theorem settles_takeOrLeave (s : Semaphore) :
    Settles s s.takeOrLeave.1 s.takeOrLeave.2 := by
  unfold takeOrLeave
  by_cases hnone : s.permits = 0
  · rw [if_pos hnone]
    exact Or.inr ⟨by simp, hnone, hnone⟩
  · rw [if_neg hnone]
    exact Or.inl ⟨rfl, hnone, rfl⟩

/-! ## What a move does -/

/-- What can happen to a semaphore in one move that adds `count` permits and comes to `o`. -/
inductive Effect (s : Semaphore) : Nat → Option Outcome → Semaphore → Prop
  | released (count : Nat) : Effect s count (some .released) (s.release count)
  | settled {s₀ s' : Semaphore} {o : Outcome} (happroach : Approach s s₀)
      (hsettles : Settles s₀ o s') : Effect s 0 (some o) s'
  | away {s' : Semaphore} (hpermits : s'.permits = s.permits) (hwoken : s'.woken = s.woken)
      (hsleeping : s'.sleeping ≠ [] → s.sleeping ≠ []) : Effect s 0 none s'

/-- A critical section adds permits, or the thread in it asks for one. -/
theorem effect_of_step {e : Event} (h : s.step e = some (o, s')) :
    Effect s (Crowd.Move.enter e).added (some o) s' := by
  cases e with
  | tryAcquire =>
    obtain ⟨rfl, rfl⟩ := Prod.mk.inj (Option.some.inj h)
    exact .settled (.refl s) (settles_takeOrLeave s)
  | arrive w =>
    obtain ⟨rfl, rfl⟩ := Prod.mk.inj (Option.some.inj h)
    exact .settled (.refl s) (settles_takeOrSleep s w)
  | resume w =>
    obtain ⟨hw, h⟩ := Option.ite_none_right_eq_some.mp h
    obtain ⟨rfl, rfl⟩ := Prod.mk.inj (Option.some.inj h)
    exact .settled (approach_of_woken hw) (settles_takeOrSleep _ w)
  | stir w =>
    obtain ⟨-, h⟩ := Option.ite_none_right_eq_some.mp h
    obtain ⟨rfl, rfl⟩ := Prod.mk.inj (Option.some.inj h)
    exact .settled (approach_of_sleeping s w) (settles_takeOrSleep _ w)
  | expire w =>
    obtain ⟨-, h⟩ := Option.ite_none_right_eq_some.mp h
    obtain ⟨rfl, rfl⟩ := Prod.mk.inj (Option.some.inj h)
    exact .settled (approach_of_sleeping s w) (settles_takeOrLeave _)
  | release count =>
    obtain ⟨rfl, rfl⟩ := Prod.mk.inj (Option.some.inj h)
    exact .released count

/-- While anyone sleeps, for every permit there is a thread that was called and is not yet
back. -/
def Attended (s : Semaphore) : Prop := s.sleeping ≠ [] → s.permits ≤ s.woken.length

theorem Attended.release (h : s.Attended) (count : Nat) : (s.release count).Attended := by
  intro hsleeping
  -- if anyone still sleeps, as many were called as permits were added
  have hmore : count < s.sleeping.length := by
    by_contra hall
    exact hsleeping (List.drop_eq_nil_of_le (Nat.le_of_not_lt hall))
  have hbefore := h (List.ne_nil_of_length_pos (Nat.lt_of_le_of_lt (Nat.zero_le _) hmore))
  simp only [Semaphore.release, List.length_append, List.length_take]
  omega

theorem Attended.settles (h : s.Attended) (happroach : Approach s s₀)
    (hsettles : Settles s₀ o s') : s'.Attended := by
  intro hsleeping
  rcases hsettles with ⟨-, hsome, rfl⟩ | ⟨-, -, hnone⟩
  · have hbefore := h (happroach.sleeping hsleeping)
    have hpermits := happroach.permits_eq
    have hwoken := happroach.woken_le
    simp only
    omega
  · rw [hnone]
    exact Nat.zero_le _

/-- One move leaves no permit unattended. -/
theorem Effect.attended {count : Nat} {o : Option Outcome} (heffect : Effect s count o s')
    (h : s.Attended) : s'.Attended := by
  cases heffect with
  | released => exact h.release count
  | settled happroach hsettles => exact h.settles happroach hsettles
  | away hpermits hwoken hsleeping =>
    intro hsome
    rw [hpermits, hwoken]
    exact h (hsleeping hsome)

/-- Permits change in one move by those that are added and the one that is granted. -/
theorem Effect.balance {count : Nat} {o : Option Outcome} (heffect : Effect s count o s') :
    s'.permits + o.toList.count .granted = s.permits + count := by
  cases heffect with
  | released => rfl
  | settled happroach hsettles =>
    have hpermits := happroach.permits_eq
    rcases hsettles with ⟨rfl, hsome, rfl⟩ | ⟨hother, hnone, hnone'⟩
    · simp only [Option.toList_some, List.count_singleton_self]
      omega
    · rw [Option.toList_some, List.count_eq_zero_of_not_mem (by simpa using hother.symm)]
      omega
  | away hpermits => exact hpermits

namespace Crowd

variable {c c' : Crowd} {m : Move}

theorem effect_of_step {o : Option Outcome} (h : c.step m = some (o, c')) :
    Effect c.semaphore m.added o c'.semaphore := by
  cases m with
  | enter e =>
    obtain ⟨⟨o', s'⟩, hstep, heq⟩ := Option.map_eq_some_iff.mp h
    obtain ⟨rfl, rfl⟩ := Prod.mk.inj heq
    exact Semaphore.effect_of_step hstep
  | stir w =>
    obtain ⟨-, h⟩ := Option.ite_none_right_eq_some.mp h
    obtain ⟨rfl, rfl⟩ := Prod.mk.inj (Option.some.inj h)
    exact .away rfl rfl (approach_of_sleeping _ w).sleeping
  | rise w =>
    obtain ⟨-, h⟩ := Option.ite_none_right_eq_some.mp h
    obtain ⟨rfl, rfl⟩ := Prod.mk.inj (Option.some.inj h)
    exact .settled (.refl _) (settles_takeOrSleep _ w)
  | lapse w =>
    obtain ⟨-, h⟩ := Option.ite_none_right_eq_some.mp h
    obtain ⟨rfl, rfl⟩ := Prod.mk.inj (Option.some.inj h)
    exact .away rfl rfl (approach_of_sleeping _ w).sleeping
  | giveUp w =>
    obtain ⟨-, h⟩ := Option.ite_none_right_eq_some.mp h
    obtain ⟨rfl, rfl⟩ := Prod.mk.inj (Option.some.inj h)
    exact .settled (.refl _) (settles_takeOrLeave _)
  | overrun w =>
    obtain ⟨⟨hw, -⟩, h⟩ := Option.ite_none_right_eq_some.mp h
    obtain ⟨rfl, rfl⟩ := Prod.mk.inj (Option.some.inj h)
    exact .settled (approach_of_woken hw) (settles_takeOrLeave _)
  | shuffle order =>
    obtain ⟨hperm, h⟩ := Option.ite_none_right_eq_some.mp h
    obtain ⟨rfl, rfl⟩ := Prod.mk.inj (Option.some.inj h)
    refine .away rfl rfl fun hsome hnone => hsome ?_
    rw [hnone] at hperm
    exact (List.isPerm_iff.mp hperm).eq_nil

/-! ## Runs -/

theorem run_cons_eq_some {moves : List Move} {outcomes : List Outcome} :
    c.run (m :: moves) = some (outcomes, c') ↔
      ∃ o d os, c.step m = some (o, d) ∧ d.run moves = some (os, c') ∧
        outcomes = o.toList ++ os := by
  rw [run]
  constructor
  · intro h
    obtain ⟨⟨o, d⟩, hstep, h⟩ := Option.bind_eq_some_iff.mp h
    obtain ⟨⟨os, c''⟩, hrun, h⟩ := Option.bind_eq_some_iff.mp h
    obtain ⟨rfl, rfl⟩ := Prod.mk.inj (Option.some.inj h)
    exact ⟨o, d, os, hstep, hrun, rfl⟩
  · rintro ⟨o, d, os, hstep, hrun, rfl⟩
    rw [hstep, Option.bind_eq_bind, Option.bind_some]
    simp only [hrun]
    rfl

/-- A run leaves no permit unattended. -/
theorem attended_run {moves : List Move} {outcomes : List Outcome} (h : c.semaphore.Attended)
    (hrun : c.run moves = some (outcomes, c')) : c'.semaphore.Attended := by
  induction moves generalizing c outcomes with
  | nil =>
    obtain ⟨-, rfl⟩ := Prod.mk.inj (Option.some.inj hrun)
    exact h
  | cons m moves ih =>
    obtain ⟨o, d, os, hstep, hrest, -⟩ := run_cons_eq_some.mp hrun
    exact ih ((effect_of_step hstep).attended h) hrest

/-- Permits change in a run by those that are added and those that are granted. -/
theorem balance_run {moves : List Move} {outcomes : List Outcome}
    (hrun : c.run moves = some (outcomes, c')) :
    c'.semaphore.permits + outcomes.count .granted = c.semaphore.permits + added moves := by
  induction moves generalizing c outcomes with
  | nil =>
    obtain ⟨rfl, rfl⟩ := Prod.mk.inj (Option.some.inj hrun)
    rfl
  | cons m moves ih =>
    obtain ⟨o, d, os, hstep, hrest, rfl⟩ := run_cons_eq_some.mp hrun
    have hone := (effect_of_step hstep).balance
    have hmany := ih hrest
    rw [List.count_append, added]
    omega

/-- A thread that was called is granted a permit if there is one when it is back. -/
theorem exists_resume {w : Waiter} (hw : w ∈ c.semaphore.woken) (hsome : c.semaphore.permits ≠ 0) :
    ∃ c', c.step (.enter (.resume w)) = some (some .granted, c') := by
  simp only [step, Semaphore.step, if_pos hw, takeOrSleep, if_neg hsome, Option.map_some, leave]
  exact ⟨_, rfl⟩

/-- **No permit is granted that is not there, and none lies beside a sleeper.**  After any run,
no more permits were granted than there have been, and all others are there.  While anyone
sleeps who was not called, there are no more permits than threads that were called and are not
yet back at the lock; so if there is a permit there is such a thread, and coming back now it is
granted one. -/
theorem wakeups_kept {permits : Nat} {moves : List Move} {outcomes : List Outcome} {c : Crowd}
    (h : (ofPermits permits).run moves = some (outcomes, c)) :
    outcomes.count .granted ≤ permits + added moves ∧
      c.semaphore.permits = permits + added moves - outcomes.count .granted ∧
      (c.semaphore.sleeping ≠ [] → c.semaphore.permits ≤ c.semaphore.woken.length) ∧
      (c.semaphore.sleeping ≠ [] → c.semaphore.permits ≠ 0 →
        ∃ w ∈ c.semaphore.woken, ∃ c', c.step (.enter (.resume w)) = some (some .granted, c')) := by
  have hbalance : c.semaphore.permits + outcomes.count .granted = permits + added moves :=
    balance_run h
  have hattended : c.semaphore.Attended := attended_run (fun hsome => absurd rfl hsome) h
  refine ⟨by omega, by omega, hattended, fun hsleeping hpermits => ?_⟩
  have hwoken := hattended hsleeping
  obtain ⟨w, hw⟩ := List.exists_mem_of_length_pos (l := c.semaphore.woken) (by omega)
  exact ⟨w, hw, exists_resume hw hpermits⟩

/-- Three threads sleep; one runs out of time before a permit is added, so that the next one is
called, and the third sleeps on. -/
theorem wakeups_kept_of_late_waiter :
    let a : Waiter := ⟨0, true⟩
    let b : Waiter := ⟨1, false⟩
    let d : Waiter := ⟨2, false⟩
    let c : Crowd := ⟨⟨1, [d], [b]⟩, [], [a]⟩
    (ofPermits 0).run [.enter (.arrive a), .enter (.arrive b), .enter (.arrive d), .lapse a,
        .enter (.release 1)] = some ([.asleep, .asleep, .asleep, .released], c) ∧
      c.semaphore.sleeping ≠ [] ∧ c.semaphore.permits ≤ c.semaphore.woken.length := by
  intro a b d c
  have hrun : (ofPermits 0).run [.enter (.arrive a), .enter (.arrive b), .enter (.arrive d),
      .lapse a, .enter (.release 1)] = some ([.asleep, .asleep, .asleep, .released], c) := by
    decide
  have hsleeping : c.semaphore.sleeping ≠ [] := by decide
  exact ⟨hrun, hsleeping, (wakeups_kept hrun).2.2.1 hsleeping⟩

end Crowd
end Semaphore
end SiteServer
