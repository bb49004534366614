import SiteServer.Proofs.Concurrency.Jobs
import SiteServer.Proofs.Concurrency.Wakeups

/-!
# Every worker leaves

To let its workers go a pool sets the flag and then adds one permit for each of them.  Wherever
the workers are when the flag is set, and whatever permits there are, all of them leave, and
nobody can keep them from it (`WorkerPool.dismissal_lets_all_leave`).

* With the flag set a worker comes nearer to its exit with each step (`Phase.stepsLeft`), so that
  it takes at most one permit more, and begins a job only if it had seen the flag not set.
* Every permit that is taken then is the last one of its worker.  So once the permits for leaving
  have been added there are enough for all workers that have to take one (`Enough`), and a worker
  that waits finds one.
* A semaphore leaves no permit beside a sleeper unless somebody was called for it.  Where there
  are enough permits for all, everybody was called (`nobody_sleeps`).
-/

namespace SiteServer
namespace WorkerPool

variable {J : Type} {pool pool' start : WorkerPool J} {worker : Nat} {e : Event J}
  {events : List (Event J)} {log : List (Outcome J)}

/-! ## Who does what -/

/-- The worker whose step it is. -/
def Event.worker? : Event J → Option Nat
  | take worker | test worker | pop worker | finish worker => some worker
  | _ => none

/-- The worker that takes a permit. -/
def Event.taker? : Event J → Option Nat
  | take worker => some worker
  | _ => none

/-- The worker that begins a job. -/
def Outcome.beginner? : Outcome J → Option Nat
  | begun worker _ => some worker
  | _ => none

/-! ## The way out -/

/-- How many steps a worker has before it at most once the flag is set. -/
def Phase.stepsLeft : Phase J → Nat
  | cleared => 4
  | handling _ => 3
  | waiting => 2
  | permitted => 1
  | exited => 0

/-- Whether a worker has to take a permit before it can leave. -/
def Phase.isStaying (phase : Phase J) : Bool := 2 ≤ phase.stepsLeft

/-- How many steps some workers have before them at most. -/
def stepsLeft : List (Phase J) → Nat
  | [] => 0
  | phase :: workers => phase.stepsLeft + stepsLeft workers

theorem stepsLeft_le (workers : List (Phase J)) : stepsLeft workers ≤ 4 * workers.length := by
  induction workers with
  | nil => exact Nat.le_refl _
  | cons phase workers ih =>
    have hfirst : phase.stepsLeft ≤ 4 := by cases phase <;> simp [Phase.stepsLeft]
    rw [stepsLeft, List.length_cons]
    omega

theorem stepsLeft_set {workers : List (Phase J)} {phase : Phase J}
    (h : workers[worker]? = some phase) (phase' : Phase J) :
    stepsLeft (workers.set worker phase') + phase.stepsLeft
      = stepsLeft workers + phase'.stepsLeft := by
  induction workers generalizing worker with
  | nil => cases h
  | cons first workers ih =>
    cases worker with
    | zero =>
      obtain rfl := Option.some.inj h
      simp only [List.set_cons_zero, stepsLeft]
      omega
    | succ worker =>
      have hrest := ih h
      simp only [List.set_cons_succ, stepsLeft]
      omega

/-- With the flag set an event is not a worker's, or it brings its worker nearer to its exit. -/
theorem move_of_step (hstopping : pool.stopping = true) (hstep : pool.step e = some pool') :
    (e.worker? = none ∧ pool'.workers = pool.workers) ∨
      ∃ worker phase phase', e.worker? = some worker ∧ pool.workers[worker]? = some phase ∧
        phase'.stepsLeft < phase.stepsLeft ∧
        pool'.workers = pool.workers.set worker phase' := by
  cases e with
  | offer job =>
    obtain ⟨rfl, -⟩ | ⟨-, -, rfl⟩ := step_offer_cases hstep <;> exact Or.inl ⟨rfl, rfl⟩
  | post =>
    obtain ⟨-, rfl⟩ := step_post_cases hstep
    exact Or.inl ⟨rfl, rfl⟩
  | take worker =>
    obtain ⟨hphase, -, rfl⟩ := step_take_cases hstep
    exact Or.inr ⟨worker, _, _, rfl, hphase, by simp [Phase.stepsLeft], rfl⟩
  | test worker =>
    obtain ⟨hphase, rfl⟩ := step_test_cases hstep
    rw [if_pos hstopping]
    exact Or.inr ⟨worker, _, _, rfl, hphase, by simp [Phase.stepsLeft], rfl⟩
  | pop worker =>
    obtain ⟨hphase, ⟨-, rfl⟩ | ⟨job, queue, -, rfl⟩⟩ := step_pop_cases hstep
    · exact Or.inr ⟨worker, _, _, rfl, hphase, by simp [Phase.stepsLeft], rfl⟩
    · exact Or.inr ⟨worker, _, _, rfl, hphase, by simp [Phase.stepsLeft], rfl⟩
  | finish worker =>
    obtain ⟨job, hphase, rfl⟩ := step_finish_cases hstep
    exact Or.inr ⟨worker, _, _, rfl, hphase, by simp [Phase.stepsLeft], rfl⟩
  | stop => cases hstopping.symm.trans (step_stop_cases hstep).1
  | dismiss =>
    obtain ⟨-, -, rfl⟩ := step_dismiss_cases hstep
    exact Or.inl ⟨rfl, rfl⟩

/-- The same workers, none of them farther from its exit. -/
structure Nearer (pool pool' : WorkerPool J) : Prop where
  length_eq : pool'.workers.length = pool.workers.length
  stepsLeft_le : ∀ (worker : Nat) (phase : Phase J), pool.workers[worker]? = some phase →
    ∃ phase', pool'.workers[worker]? = some phase' ∧ phase'.stepsLeft ≤ phase.stepsLeft

/-- A worker is there and has at most so many steps before it. -/
def Within (pool : WorkerPool J) (bound worker : Nat) : Prop :=
  ∃ phase, pool.workers[worker]? = some phase ∧ phase.stepsLeft ≤ bound

theorem nearer_of_workers_eq (h : pool'.workers = pool.workers) : Nearer pool pool' :=
  ⟨congrArg List.length h, fun _ phase hphase => ⟨phase, h ▸ hphase, Nat.le_refl _⟩⟩

theorem Nearer.trans {pool'' : WorkerPool J} (h : Nearer pool pool') (h' : Nearer pool' pool'') :
    Nearer pool pool'' where
  length_eq := h'.length_eq.trans h.length_eq
  stepsLeft_le worker phase hphase := by
    obtain ⟨phase', hphase', hle⟩ := h.stepsLeft_le worker phase hphase
    obtain ⟨phase'', hphase'', hle'⟩ := h'.stepsLeft_le worker phase' hphase'
    exact ⟨phase'', hphase'', Nat.le_trans hle' hle⟩

/-- A worker was no nearer to its exit before. -/
theorem Nearer.exists_before (h : Nearer pool pool') {phase' : Phase J}
    (hphase' : pool'.workers[worker]? = some phase') :
    ∃ phase, pool.workers[worker]? = some phase ∧ phase'.stepsLeft ≤ phase.stepsLeft := by
  have hlt : worker < pool.workers.length :=
    h.length_eq ▸ (List.getElem?_eq_some_iff.mp hphase').1
  obtain ⟨_, hsame, hle⟩ := h.stepsLeft_le worker _ (List.getElem?_eq_getElem hlt)
  obtain rfl := Option.some.inj (hsame.symm.trans hphase')
  exact ⟨_, List.getElem?_eq_getElem hlt, hle⟩

theorem Nearer.within (h : Nearer pool pool') {bound : Nat} (hbound : pool.Within bound worker) :
    pool'.Within bound worker := by
  obtain ⟨phase, hphase, hle⟩ := hbound
  obtain ⟨phase', hphase', hle'⟩ := h.stepsLeft_le worker phase hphase
  exact ⟨phase', hphase', Nat.le_trans hle' hle⟩

theorem nearer_of_step (hstopping : pool.stopping = true) (hstep : pool.step e = some pool') :
    Nearer pool pool' := by
  rcases move_of_step hstopping hstep with ⟨-, hsame⟩ | ⟨mover, phase, phase', -, hphase, hlt, hset⟩
  · exact nearer_of_workers_eq hsame
  · refine ⟨by rw [hset, List.length_set], fun worker before hbefore => ?_⟩
    rw [hset, List.getElem?_set]
    by_cases hmover : mover = worker
    · subst hmover
      obtain rfl := Option.some.inj (hphase.symm.trans hbefore)
      have hsome := (List.getElem?_eq_some_iff.mp hphase).1
      exact ⟨phase', by rw [if_pos rfl, if_pos hsome], Nat.le_of_lt hlt⟩
    · exact ⟨before, by rw [if_neg hmover, hbefore], Nat.le_refl _⟩

/-- What was done to let the workers leave is not undone. -/
theorem flags_of_step (hstep : pool.step e = some pool') :
    (pool.stopping = true → pool'.stopping = true) ∧
      (pool.dismissed = true → pool'.dismissed = true) := by
  cases e with
  | offer job => obtain ⟨rfl, -⟩ | ⟨-, -, rfl⟩ := step_offer_cases hstep <;> exact ⟨id, id⟩
  | post => exact (step_post_cases hstep).2 ▸ ⟨id, id⟩
  | take worker => exact (step_take_cases hstep).2.2 ▸ ⟨id, id⟩
  | test worker => exact (step_test_cases hstep).2 ▸ ⟨id, id⟩
  | pop worker =>
    obtain ⟨-, ⟨-, rfl⟩ | ⟨job, queue, -, rfl⟩⟩ := step_pop_cases hstep <;> exact ⟨id, id⟩
  | finish worker =>
    obtain ⟨job, -, rfl⟩ := step_finish_cases hstep
    exact ⟨id, id⟩
  | stop => exact (step_stop_cases hstep).2 ▸ ⟨fun _ => rfl, id⟩
  | dismiss => exact (step_dismiss_cases hstep).2.2 ▸ ⟨id, fun _ => rfl⟩

/-! ## What a run keeps once the flag is set -/

/-- The workers that took a permit, in the order in which they did. -/
def takers (events : List (Event J)) : List Nat := events.filterMap Event.taker?

/-- The workers that began a job, in the order in which they did. -/
def beginners (log : List (Outcome J)) : List Nat := log.filterMap Outcome.beginner?

theorem takers_concat (events : List (Event J)) (e : Event J) :
    takers (events ++ [e]) = takers events ++ e.taker?.toList := by
  rw [takers, List.filterMap_append]
  cases h : e.taker? <;> simp [takers, h]

theorem beginners_concat (log : List (Outcome J)) (o : Outcome J) :
    beginners (log ++ [o]) = beginners log ++ o.beginner?.toList := by
  rw [beginners, List.filterMap_append]
  cases h : o.beginner? <;> simp [beginners, h]

/-- How many of the events are steps of workers. -/
def workerSteps (events : List (Event J)) : Nat := (events.filterMap Event.worker?).length

/-- The workers since the flag was set. -/
structure Retreat (start : WorkerPool J) (events : List (Event J)) (pool : WorkerPool J) :
    Prop where
  stopping : pool.stopping = true
  nearer : Nearer start pool
  takers_nodup : (takers events).Nodup
  /-- Who took a permit had to. -/
  stayed : ∀ worker ∈ takers events,
    ∃ phase, start.workers[worker]? = some phase ∧ phase.isStaying = true
  /-- Who took a permit only has to leave. -/
  leaving : ∀ worker ∈ takers events, pool.Within 1 worker
  steps_le : workerSteps events + stepsLeft pool.workers ≤ stepsLeft start.workers

/-- The jobs since the flag was set. -/
structure Remains (start : WorkerPool J) (log : List (Outcome J)) (pool : WorkerPool J) :
    Prop where
  queue_eq : start.queue ++ accepted log = begun log ++ pool.queue
  hands_perm : (start.inHands ++ start.finished ++ begun log).Perm (pool.inHands ++ pool.finished)
  begun_le : (begun log).length + pool.workers.countP Phase.isCleared
    ≤ start.workers.countP Phase.isCleared
  beginners_nodup : (beginners log).Nodup
  /-- Who began a job had seen the flag not set. -/
  cleared : ∀ worker ∈ beginners log, start.workers[worker]? = some .cleared
  /-- Who began a job begins no other. -/
  busy : ∀ worker ∈ beginners log, pool.Within 3 worker

/-- Every worker that has to take a permit finds one. -/
def Enough (pool : WorkerPool J) : Prop :=
  pool.dismissed = true → pool.workers.countP Phase.isStaying ≤ pool.permits

theorem Enough.step (hstopping : pool.stopping = true) (h : pool.Enough)
    (hstep : pool.step e = some pool') : pool'.Enough := by
  intro hdismissed
  cases e with
  | offer job => obtain ⟨rfl, -⟩ | ⟨-, -, rfl⟩ := step_offer_cases hstep <;> exact h hdismissed
  | post =>
    obtain ⟨-, rfl⟩ := step_post_cases hstep
    exact Nat.le_succ_of_le (h hdismissed)
  | take worker =>
    -- a permit less, and a worker less that needs one
    obtain ⟨hphase, hsome, rfl⟩ := step_take_cases hstep
    have hmove : _ + 1 = _ + 0 := countP_move hphase .permitted Phase.isStaying
    have hbefore := h hdismissed
    show (pool.move worker .permitted).workers.countP _ ≤ pool.permits - 1
    omega
  | test worker =>
    obtain ⟨hphase, rfl⟩ := step_test_cases hstep
    rw [if_pos hstopping] at hdismissed ⊢
    have hmove : _ + 0 = _ + 0 := countP_move hphase .exited Phase.isStaying
    exact Nat.le_trans (Nat.le_of_eq hmove) (h hdismissed)
  | pop worker =>
    obtain ⟨hphase, ⟨-, rfl⟩ | ⟨job, queue, -, rfl⟩⟩ := step_pop_cases hstep
    · have hmove : _ + 1 = _ + 1 := countP_move hphase .waiting Phase.isStaying
      exact Nat.le_trans (Nat.le_of_eq (Nat.succ.inj hmove)) (h hdismissed)
    · have hmove : _ + 1 = _ + 1 := countP_move hphase (.handling job) Phase.isStaying
      exact Nat.le_trans (Nat.le_of_eq (Nat.succ.inj hmove)) (h hdismissed)
  | finish worker =>
    obtain ⟨job, hphase, rfl⟩ := step_finish_cases hstep
    have hmove : _ + 1 = _ + 1 := countP_move hphase .waiting Phase.isStaying
    exact Nat.le_trans (Nat.le_of_eq (Nat.succ.inj hmove)) (h hdismissed)
  | stop => cases hstopping.symm.trans (step_stop_cases hstep).1
  | dismiss =>
    obtain ⟨-, -, rfl⟩ := step_dismiss_cases hstep
    exact Nat.le_trans List.countP_le_length (Nat.le_add_left _ _)

theorem workerSteps_concat (events : List (Event J)) (e : Event J) :
    workerSteps (events ++ [e]) = workerSteps events + e.worker?.toList.length := by
  rw [workerSteps, List.filterMap_append, List.length_append, workerSteps]
  cases h : e.worker? <;> simp [h]

/-- A step of a worker is one of those it had before it. -/
theorem steps_of_step (hstopping : pool.stopping = true) (hstep : pool.step e = some pool') :
    e.worker?.toList.length + stepsLeft pool'.workers ≤ stepsLeft pool.workers := by
  rcases move_of_step hstopping hstep with ⟨hnone, hsame⟩ |
    ⟨mover, phase, phase', hmover, hphase, hlt, hset⟩
  · rw [hnone, hsame]
    exact Nat.le_of_eq (Nat.zero_add _)
  · have htotal := stepsLeft_set hphase phase'
    rw [hmover, hset, Option.toList_some, List.length_singleton]
    omega

theorem eq_take_of_taker (h : e.taker? = some worker) : e = .take worker := by
  cases e with
  | take worker' =>
    obtain rfl := Option.some.inj h
    rfl
  | _ => cases h

theorem within_move {phase phase' : Phase J} (hphase : pool.workers[worker]? = some phase) :
    (pool.move worker phase').Within phase'.stepsLeft worker :=
  ⟨phase', List.getElem?_set_self (List.getElem?_eq_some_iff.mp hphase).1, Nat.le_refl _⟩

theorem Within.stepsLeft_le {bound : Nat} (h : pool.Within bound worker) {phase : Phase J}
    (hphase : pool.workers[worker]? = some phase) : phase.stepsLeft ≤ bound := by
  obtain ⟨phase', hphase', hle⟩ := h
  obtain rfl := Option.some.inj (hphase'.symm.trans hphase)
  exact hle

/-- A worker that stands farther from its exit than all those listed is not one of them. -/
theorem nodup_concat {workers : List Nat} {bound : Nat} {phase : Phase J}
    (hnodup : workers.Nodup) (hwithin : ∀ other ∈ workers, pool.Within bound other)
    (hphase : pool.workers[worker]? = some phase) (hlt : bound < phase.stepsLeft) :
    (workers ++ [worker]).Nodup := by
  refine List.nodup_append.mpr ⟨hnodup, List.pairwise_singleton _ _, ?_⟩
  rintro other hother _ hworker rfl
  obtain rfl := List.mem_singleton.mp hworker
  exact absurd ((hwithin _ hother).stepsLeft_le hphase) (Nat.not_le.mpr hlt)

theorem forall_mem_concat {workers : List Nat} {P : Nat → Prop} (h : ∀ other ∈ workers, P other)
    (hworker : P worker) : ∀ other ∈ workers ++ [worker], P other :=
  List.forall_mem_append.mpr ⟨h, List.forall_mem_singleton.mpr hworker⟩

theorem Retreat.step (h : Retreat start events pool) (hstep : pool.step e = some pool') :
    Retreat start (events ++ [e]) pool' := by
  have hnearer := nearer_of_step h.stopping hstep
  have hleaving : ∀ other ∈ takers events, pool'.Within 1 other := fun other hother =>
    hnearer.within (h.leaving other hother)
  have hsteps : workerSteps (events ++ [e]) + stepsLeft pool'.workers
      ≤ stepsLeft start.workers := by
    have hone := steps_of_step h.stopping hstep
    have hbefore := h.steps_le
    rw [workerSteps_concat]
    omega
  have hstopping := (flags_of_step hstep).1 h.stopping
  cases htaker : e.taker? with
  | none =>
    have hsame : takers (events ++ [e]) = takers events := by
      rw [takers_concat, htaker, Option.toList_none, List.append_nil]
    exact ⟨hstopping, h.nearer.trans hnearer, hsame ▸ h.takers_nodup, hsame ▸ h.stayed,
      hsame ▸ hleaving, hsteps⟩
  | some worker =>
    obtain rfl := eq_take_of_taker htaker
    have hmore : takers (events ++ [.take worker]) = takers events ++ [worker] :=
      takers_concat events (.take worker)
    obtain ⟨hphase, -, rfl⟩ := step_take_cases hstep
    obtain ⟨before, hbefore, hle⟩ := h.nearer.exists_before hphase
    exact ⟨hstopping, h.nearer.trans hnearer,
      hmore ▸ nodup_concat h.takers_nodup h.leaving hphase (Nat.lt_succ_self 1),
      hmore ▸ forall_mem_concat h.stayed ⟨before, hbefore, decide_eq_true hle⟩,
      hmore ▸ forall_mem_concat hleaving (within_move hphase), hsteps⟩

theorem Nearer.cleared (h : Nearer start pool) (hphase : pool.workers[worker]? = some .cleared) :
    start.workers[worker]? = some .cleared := by
  obtain ⟨phase, hbefore, hle⟩ := h.exists_before hphase
  cases phase with
  | cleared => exact hbefore
  | _ => exact absurd hle (by simp [Phase.stepsLeft])

theorem Remains.of_silent (h : Remains start log pool) (hnearer : Nearer pool pool')
    {o : Outcome J} (ho : o.begun? = none ∧ o.beginner? = none)
    (hqueue : pool'.queue = pool.queue ++ o.accepted?.toList)
    (hhands : (pool.inHands ++ pool.finished).Perm (pool'.inHands ++ pool'.finished))
    (hcleared : pool'.workers.countP Phase.isCleared ≤ pool.workers.countP Phase.isCleared) :
    Remains start (log ++ [o]) pool' := by
  have hbegun : begun (log ++ [o]) = begun log := by
    rw [begun_concat, ho.1, Option.toList_none, List.append_nil]
  have hbeginners : beginners (log ++ [o]) = beginners log := by
    rw [beginners_concat, ho.2, Option.toList_none, List.append_nil]
  refine ⟨?_, ?_, ?_, hbeginners ▸ h.beginners_nodup, hbeginners ▸ h.cleared,
    hbeginners ▸ fun other hother => hnearer.within (h.busy other hother)⟩
  · rw [hbegun, accepted_concat, hqueue, ← List.append_assoc, ← List.append_assoc, h.queue_eq]
  · rw [hbegun]
    exact h.hands_perm.trans hhands
  · rw [hbegun]
    exact Nat.le_trans (Nat.add_le_add_left hcleared _) h.begun_le

/-- A worker that looks into the queue takes the first job, or finds none and has to leave. -/
theorem Remains.pop (hnear : Nearer start pool) (h : Remains start log pool)
    (hnearer : Nearer pool pool') (hstep : pool.step (.pop worker) = some pool') :
    Remains start (log ++ [pool.outcome (.pop worker)]) pool' := by
  obtain ⟨hphase, ⟨hqueue, rfl⟩ | ⟨job, queue, hqueue, rfl⟩⟩ := step_pop_cases hstep
  · have houtcome : pool.outcome (.pop worker) = .missed worker := by
      simp only [outcome, hphase, hqueue]
    have hcleared : _ + 1 = _ + 0 := countP_move hphase .waiting Phase.isCleared
    obtain ⟨rest, hbefore, hafter⟩ := inHands_move hphase .waiting
    rw [houtcome]
    exact h.of_silent hnearer ⟨rfl, rfl⟩ (List.append_nil _).symm
      ((hbefore.trans hafter.symm).append_right _) (Nat.le.intro hcleared)
  · have houtcome : pool.outcome (.pop worker) = .begun worker job := by
      simp only [outcome, hphase, hqueue]
    have hcleared : _ + 1 = _ + 0 := countP_move hphase (.handling job) Phase.isCleared
    obtain ⟨rest, hbefore, hafter⟩ := inHands_move hphase (.handling job)
    have hbegun : begun (log ++ [.begun worker job]) = begun log ++ [job] := begun_concat log _
    have hbeginners : beginners (log ++ [.begun worker job]) = beginners log ++ [worker] :=
      beginners_concat log _
    rw [houtcome]
    refine ⟨?_, ?_, ?_,
      hbeginners ▸ nodup_concat h.beginners_nodup h.busy hphase (Nat.lt_succ_self 3),
      hbeginners ▸ forall_mem_concat h.cleared (hnear.cleared hphase),
      hbeginners ▸ forall_mem_concat (fun other hother => hnearer.within (h.busy other hother))
        (within_move hphase)⟩
    · rw [accepted_concat, hbegun, ← List.append_assoc, h.queue_eq, hqueue]
      simp [Outcome.accepted?, WorkerPool.move]
    · rw [hbegun, ← List.append_assoc]
      refine (h.hands_perm.append_right [job]).trans ?_
      refine (List.perm_append_singleton job _).trans (.trans (.cons job ?_)
        (hafter.symm.append_right _))
      exact hbefore.append_right _
    · have hle := h.begun_le
      rw [hbegun, List.length_append, List.length_singleton]
      show _ + (pool.move worker (.handling job)).workers.countP _ ≤ _
      omega

theorem Remains.step (hopen : pool.stopping = true) (hnear : Nearer start pool)
    (h : Remains start log pool) (hstep : pool.step e = some pool') :
    Remains start (log ++ [pool.outcome e]) pool' := by
  have hnearer := nearer_of_step hopen hstep
  cases e with
  | offer job =>
    rcases step_offer_cases hstep with ⟨rfl, houtcome⟩ | ⟨-, houtcome, rfl⟩
    · rw [houtcome]
      exact h.of_silent hnearer ⟨rfl, rfl⟩ (List.append_nil _).symm (.refl _) (Nat.le_refl _)
    · rw [houtcome]
      exact h.of_silent hnearer ⟨rfl, rfl⟩ rfl (.refl _) (Nat.le_refl _)
  | post =>
    obtain ⟨-, rfl⟩ := step_post_cases hstep
    exact h.of_silent hnearer ⟨rfl, rfl⟩ (List.append_nil _).symm (.refl _) (Nat.le_refl _)
  | take worker =>
    obtain ⟨hphase, -, rfl⟩ := step_take_cases hstep
    have hcleared : _ + 0 = _ + 0 := countP_move hphase .permitted Phase.isCleared
    obtain ⟨rest, hbefore, hafter⟩ := inHands_move hphase .permitted
    exact h.of_silent hnearer ⟨rfl, rfl⟩ (List.append_nil _).symm
      ((hbefore.trans hafter.symm).append_right _) (Nat.le_of_eq hcleared)
  | test worker =>
    obtain ⟨hphase, rfl⟩ := step_test_cases hstep
    rw [if_pos hopen] at hnearer ⊢
    have hcleared : _ + 0 = _ + 0 := countP_move hphase .exited Phase.isCleared
    obtain ⟨rest, hbefore, hafter⟩ := inHands_move hphase .exited
    exact h.of_silent hnearer ⟨rfl, rfl⟩ (List.append_nil _).symm
      ((hbefore.trans hafter.symm).append_right _) (Nat.le_of_eq hcleared)
  | pop worker => exact h.pop hnear hnearer hstep
  | finish worker =>
    obtain ⟨job, hphase, rfl⟩ := step_finish_cases hstep
    have hcleared : _ + 0 = _ + 0 := countP_move hphase .waiting Phase.isCleared
    obtain ⟨rest, hbefore, hafter⟩ := inHands_move hphase .waiting
    refine h.of_silent hnearer ⟨rfl, rfl⟩ (List.append_nil _).symm ?_ (Nat.le_of_eq hcleared)
    exact (hbefore.append_right _).trans (.trans List.perm_middle.symm (hafter.symm.append_right _))
  | stop => cases hopen.symm.trans (step_stop_cases hstep).1
  | dismiss =>
    obtain ⟨-, -, rfl⟩ := step_dismiss_cases hstep
    exact h.of_silent hnearer ⟨rfl, rfl⟩ (List.append_nil _).symm (.refl _) (Nat.le_refl _)

/-- The flag is set, and of everything that matters nothing has happened since. -/
theorem retreat_start (start : WorkerPool J) (hstopping : start.stopping = true) :
    Retreat start [] start where
  stopping := hstopping
  nearer := nearer_of_workers_eq rfl
  takers_nodup := List.nodup_nil
  stayed := List.forall_mem_nil _
  leaving := List.forall_mem_nil _
  steps_le := Nat.le_of_eq (Nat.zero_add _)

theorem remains_start (start : WorkerPool J) : Remains start [] start where
  queue_eq := List.append_nil _
  hands_perm := .of_eq (List.append_nil _)
  begun_le := Nat.le_of_eq (Nat.zero_add _)
  beginners_nodup := List.nodup_nil
  cleared := List.forall_mem_nil _
  busy := List.forall_mem_nil _

theorem Retreat.run {more : List (Event J)} (h : Retreat start events pool)
    (hremains : Remains start log pool) (henough : pool.Enough)
    (hrun : pool.run more = some pool') :
    Retreat start (events ++ more) pool' ∧ Remains start (log ++ pool.log more) pool' ∧
      pool'.Enough := by
  induction more generalizing pool events log with
  | nil =>
    obtain rfl := Option.some.inj hrun
    rw [WorkerPool.log, List.append_nil, List.append_nil]
    exact ⟨h, hremains, henough⟩
  | cons e more ih =>
    obtain ⟨next, hstep, hrun⟩ := Option.bind_eq_some_iff.mp hrun
    have hlog : pool.log (e :: more) = pool.outcome e :: next.log more := by
      rw [WorkerPool.log, hstep]
    rw [hlog, List.append_cons events, List.append_cons log]
    exact ih (h.step hstep) (hremains.step h.stopping h.nearer hstep)
      (henough.step h.stopping hstep) hrun

/-! ## Nobody is kept -/

theorem Enough.permits_ne_zero (h : pool.Enough) (hdismissed : pool.dismissed = true)
    (hphase : pool.workers[worker]? = some .waiting) : pool.permits ≠ 0 := by
  have hsome : 0 < pool.workers.countP Phase.isStaying :=
    List.countP_pos_iff.mpr ⟨_, List.mem_of_getElem? hphase, rfl⟩
  exact Nat.ne_of_gt (Nat.lt_of_lt_of_le hsome (h hdismissed))

/-- A worker that has not left has a step before it. -/
theorem exists_step (henough : pool.Enough) (hdismissed : pool.dismissed = true) {phase : Phase J}
    (hphase : pool.workers[worker]? = some phase) (hstays : phase ≠ .exited) :
    ∃ e pool', e.worker? = some worker ∧ pool.step e = some pool' := by
  cases phase with
  | waiting =>
    have hsome := henough.permits_ne_zero hdismissed hphase
    exact ⟨.take worker, _, rfl, by simp only [WorkerPool.step, hphase, if_neg hsome]; rfl⟩
  | permitted => exact ⟨.test worker, _, rfl, by simp only [WorkerPool.step, hphase]; rfl⟩
  | cleared =>
    cases hqueue : pool.queue with
    | nil => exact ⟨.pop worker, _, rfl, by simp only [WorkerPool.step, hphase, hqueue]; rfl⟩
    | cons job queue =>
      exact ⟨.pop worker, _, rfl, by simp only [WorkerPool.step, hphase, hqueue]; rfl⟩
  | handling job => exact ⟨.finish worker, _, rfl, by simp only [WorkerPool.step, hphase]; rfl⟩
  | exited => exact absurd rfl hstays

/-- All workers leave, by their own steps. -/
theorem exists_run_to_exit (hstopping : pool.stopping = true) (henough : pool.Enough)
    (hdismissed : pool.dismissed = true) :
    ∃ events pool', (∀ e ∈ events, e.worker? ≠ none) ∧ pool.run events = some pool' ∧
      ∀ phase ∈ pool'.workers, phase = .exited := by
  induction hsteps : stepsLeft pool.workers using Nat.strongRecOn generalizing pool with
  | ind n ih =>
    by_cases hall : ∀ phase ∈ pool.workers, phase = .exited
    · exact ⟨[], pool, List.forall_mem_nil _, rfl, hall⟩
    · push Not at hall
      obtain ⟨phase, hmem, hstays⟩ := hall
      obtain ⟨worker, hphase⟩ := List.getElem?_of_mem hmem
      obtain ⟨e, next, hworker, hstep⟩ := exists_step henough hdismissed hphase hstays
      have hfewer := steps_of_step hstopping hstep
      rw [hworker, Option.toList_some, List.length_singleton] at hfewer
      have hflags := flags_of_step hstep
      obtain ⟨events, pool', hevents, hrun, hexited⟩ := ih _ (by omega) (hflags.1 hstopping)
        (henough.step hstopping hstep) (hflags.2 hdismissed) rfl
      refine ⟨e :: events, pool', List.forall_mem_cons.mpr ⟨by simp [hworker], hevents⟩, ?_,
        hexited⟩
      rw [WorkerPool.run, hstep]
      exact hrun

/-- Some threads are waiting workers, each of them another one. -/
structure AreWaiting (pool : WorkerPool J) (threads : List Waiter) : Prop where
  nodup : (threads.map (·.id)).Nodup
  waiting : ∀ w ∈ threads, pool.workers[w.id]? = some .waiting

/-- There are no more threads that wait than workers that have to take a permit. -/
theorem AreWaiting.length_le {threads : List Waiter} (h : AreWaiting pool threads) :
    threads.length ≤ pool.workers.countP Phase.isStaying := by
  induction threads generalizing pool with
  | nil => exact Nat.zero_le _
  | cons w threads ih =>
    -- without this worker there are still the others
    obtain ⟨hfirst, hrest⟩ := List.nodup_cons.mp h.nodup
    obtain ⟨hphase, hwaiting⟩ := List.forall_mem_cons.mp h.waiting
    have hothers : AreWaiting (pool.move w.id .exited) threads := by
      refine ⟨hrest, fun v hv => ?_⟩
      have hne : w.id ≠ v.id := fun heq => hfirst (List.mem_map.mpr ⟨v, hv, heq.symm⟩)
      exact (List.getElem?_set_ne hne).trans (hwaiting v hv)
    have hmove : _ + 1 = _ + 0 := countP_move hphase .exited Phase.isStaying
    have hle := ih hothers
    rw [List.length_cons]
    omega

/-- Where there are permits for all, nobody sleeps without having been called. -/
theorem nobody_sleeps (henough : pool.Enough) (hdismissed : pool.dismissed = true)
    {s : Semaphore} (hattended : s.Attended) (hpermits : s.permits = pool.permits)
    (hthreads : AreWaiting pool (s.sleeping ++ s.woken)) : s.sleeping = [] := by
  by_contra hsome
  have hwoken := hattended hsome
  have hall := hthreads.length_le
  have hfor := henough hdismissed
  have hsleepers := List.length_pos_iff.mpr hsome
  rw [List.length_append] at hall
  omega

/-- **Letting the workers go cannot fail.**  The flag is set, whatever jobs and permits there are
and wherever the workers are, and then the permits for leaving are added.  Whatever happens next
and in whatever order:

* each worker takes at most one permit, and only if it had to;
* once the permits for leaving are there, there are enough for all workers that have to take one,
  and each worker that has not left has a step before it: nobody waits in vain;
* workers take no more than four steps each, and by their own steps all of them leave;
* of the threads at the semaphore, nobody sleeps who was not called;
* only workers that had seen the flag not set begin a job, each of them at most one, and jobs are
  begun in turn; all others stay in the queue. -/
theorem dismissal_lets_all_leave {p stopped pool : WorkerPool J} {events : List (Event J)}
    (hbefore : p.dismissed = false) (hstop : p.step .stop = some stopped)
    (hrun : stopped.run events = some pool) :
    let log := stopped.log events
    ((takers events).Nodup ∧
      ∀ worker ∈ takers events,
        ∃ phase, p.workers[worker]? = some phase ∧ phase.isStaying = true) ∧
    (pool.dismissed = true →
      pool.workers.countP Phase.isStaying ≤ pool.permits ∧
      (∀ worker : Nat, pool.workers[worker]? = some .waiting → pool.permits ≠ 0) ∧
      (∀ (worker : Nat) (phase : Phase J), pool.workers[worker]? = some phase →
        phase ≠ .exited → ∃ e pool', e.worker? = some worker ∧ pool.step e = some pool') ∧
      (∃ more pool', (∀ e ∈ more, e.worker? ≠ none) ∧ pool.run more = some pool' ∧
        ∀ phase ∈ pool'.workers, phase = .exited) ∧
      ∀ (permits : Nat) (moves : List Semaphore.Crowd.Move) (outcomes : List Semaphore.Outcome)
        (crowd : Semaphore.Crowd),
        (Semaphore.Crowd.ofPermits permits).run moves = some (outcomes, crowd) →
        crowd.semaphore.permits = pool.permits →
        AreWaiting pool (crowd.semaphore.sleeping ++ crowd.semaphore.woken) →
        crowd.semaphore.sleeping = []) ∧
    workerSteps events ≤ 4 * p.workers.length ∧
    (p.queue ++ accepted log = begun log ++ pool.queue ∧
      (p.inHands ++ p.finished ++ begun log).Perm (pool.inHands ++ pool.finished)) ∧
    ((beginners log).Nodup ∧ (∀ worker ∈ beginners log, p.workers[worker]? = some .cleared) ∧
      (begun log).length + pool.workers.countP Phase.isCleared
        ≤ p.workers.countP Phase.isCleared) := by
  intro log
  obtain ⟨-, rfl⟩ := step_stop_cases hstop
  have henough : Enough ({ p with stopping := true } : WorkerPool J) :=
    fun hdismissed => absurd (hbefore.symm.trans hdismissed) Bool.false_ne_true
  obtain ⟨h, hremains, henough⟩ :=
    (retreat_start { p with stopping := true } rfl).run (remains_start _) henough hrun
  rw [List.nil_append] at h hremains
  refine ⟨⟨h.takers_nodup, h.stayed⟩, fun hdismissed => ⟨henough hdismissed,
    fun worker => henough.permits_ne_zero hdismissed, fun worker phase =>
    exists_step henough hdismissed, exists_run_to_exit h.stopping henough hdismissed, ?_⟩, ?_,
    ⟨hremains.queue_eq, hremains.hands_perm⟩, hremains.beginners_nodup, hremains.cleared,
    hremains.begun_le⟩
  · intro permits moves outcomes crowd hcrowd hpermits hthreads
    have hattended : crowd.semaphore.Attended :=
      Semaphore.Crowd.attended_run (fun hsome => absurd rfl hsome) hcrowd
    exact nobody_sleeps henough hdismissed hattended hpermits hthreads
  · have htaken := h.steps_le
    have hbound := stepsLeft_le p.workers
    simp only at htaken
    omega

/-- Four workers are in four places when the flag is set.  One of them still begins the first job;
the second is never begun, and there are permits for the three that have to take one. -/
theorem dismissal_lets_all_leave_of_scattered_workers :
    let p : WorkerPool Nat :=
      { capacity := 2, queue := [1, 2], workers := [.waiting, .permitted, .cleared, .handling 7] }
    let stopped : WorkerPool Nat := { p with stopping := true }
    let events : List (Event Nat) := [.pop 2, .dismiss, .test 1, .finish 3]
    let pool : WorkerPool Nat :=
      { capacity := 2, queue := [2], permits := 4, stopping := true, dismissed := true
        workers := [.waiting, .exited, .handling 1, .waiting], finished := [7] }
    let crowd : Semaphore.Crowd := ⟨⟨4, [], [⟨0, false⟩]⟩, [], []⟩
    p.step .stop = some stopped ∧ stopped.run events = some pool ∧
      pool.workers.countP Phase.isStaying = 3 ∧ 3 ≤ pool.permits ∧
      begun (stopped.log events) = [1] ∧ beginners (stopped.log events) = [2] ∧
      AreWaiting pool (crowd.semaphore.sleeping ++ crowd.semaphore.woken) ∧
      crowd.semaphore.sleeping = [] ∧
      ∃ more pool', pool.run more = some pool' ∧ ∀ phase ∈ pool'.workers, phase = .exited := by
  intro p stopped events pool crowd
  have hstop : p.step .stop = some stopped := by decide
  have hrun : stopped.run events = some pool := by decide
  obtain ⟨-, hdismissed, -⟩ := dismissal_lets_all_leave (by decide) hstop hrun
  obtain ⟨hpermits, -, -, ⟨more, pool', -, hexit, hexited⟩, hsleepers⟩ := hdismissed (by decide)
  have hcrowd : (Semaphore.Crowd.ofPermits 0).run
      [.enter (.arrive ⟨0, false⟩), .enter (.release 4)] = some ([.asleep, .released], crowd) := by
    decide
  have hthreads : AreWaiting pool (crowd.semaphore.sleeping ++ crowd.semaphore.woken) :=
    ⟨by decide, by decide⟩
  exact ⟨hstop, hrun, by decide, hpermits, by decide, by decide, hthreads,
    hsleepers 0 _ _ crowd hcrowd rfl hthreads, more, pool', hexit, hexited⟩

end WorkerPool
end SiteServer
