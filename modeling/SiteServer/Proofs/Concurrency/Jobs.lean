import Mathlib.Data.List.Perm.Basic
import SiteServer.Concurrency.WorkerPool

/-!
# Every job is done once

A job that was put into the queue of a pool is taken by one worker, in its turn, and a worker
that looks for a job finds one (`WorkerPool.jobs_done_in_turn`).

Queue and permits are guarded by two locks, and a thread that hands in a job comes to them in
the opposite order to a worker.  In between the two numbers differ: by the jobs whose permits
are still owed, and by the workers that have a permit and no job yet.  So while the flag is not
set the queue is as long as permits, owed permits and coming workers together
(`Kept.length_eq`).  A worker that has seen the flag not set keeps its claim to a job even after
that, which is why the queue is never shorter than there are such workers (`Kept.cleared_le`).

* `step_offer_cases`, `step_post_cases`, `step_take_cases`, `step_test_cases`, `step_pop_cases`,
  `step_finish_cases`, `step_stop_cases`, `step_dismiss_cases`: the steps of a pool, read
  backwards.
* `Kept.step`, `Kept.run`: what a step keeps, and hence a run.
-/

namespace SiteServer
namespace WorkerPool

variable {J : Type} {pool pool' : WorkerPool J} {worker : Nat}

/-! ## The steps -/

/-- There is room in the queue, and the job is the last in it. -/
theorem offer_eq_ok {job : J} (h : pool.offer job = .ok pool') :
    pool.queue.length < pool.capacity ∧
      pool' = { pool with queue := pool.queue ++ [job], owed := pool.owed + 1 } := by
  unfold offer at h
  split at h
  case isTrue => cases h
  case isFalse hroom => exact ⟨Nat.lt_of_not_le hroom, (Except.ok.inj h).symm⟩

/-- There is no room, and the job that comes back is the one that was handed in. -/
theorem offer_eq_error {job back : J} (h : pool.offer job = .error back) :
    pool.capacity ≤ pool.queue.length ∧ back = job := by
  unfold offer at h
  split at h
  case isTrue hfull => exact ⟨hfull, (Except.error.inj h).symm⟩
  case isFalse => cases h

/-- A job that is handed in comes back and changes nothing, or is the last in the queue. -/
theorem step_offer_cases {job : J} (h : pool.step (.offer job) = some pool') :
    (pool' = pool ∧ pool.outcome (.offer job) = .handedBack job) ∨
      (pool.queue.length < pool.capacity ∧ pool.outcome (.offer job) = .queued job ∧
        pool' = { pool with queue := pool.queue ++ [job], owed := pool.owed + 1 }) := by
  simp only [WorkerPool.step, outcome] at h ⊢
  cases hoffer : pool.offer job with
  | error back =>
    rw [hoffer] at h
    exact Or.inl ⟨(Option.some.inj h).symm, by rw [(offer_eq_error hoffer).2]⟩
  | ok later =>
    rw [hoffer] at h
    obtain rfl := Option.some.inj h
    exact Or.inr ⟨(offer_eq_ok hoffer).1, rfl, (offer_eq_ok hoffer).2⟩

theorem step_post_cases (h : pool.step .post = some pool') :
    pool.owed ≠ 0 ∧ pool' = { pool with owed := pool.owed - 1, permits := pool.permits + 1 } := by
  unfold step at h
  simp only at h
  split at h
  case isTrue => cases h
  case isFalse howed => exact ⟨howed, (Option.some.inj h).symm⟩

/-- A worker that waits takes a permit. -/
theorem step_take_cases (h : pool.step (.take worker) = some pool') :
    pool.workers[worker]? = some .waiting ∧ pool.permits ≠ 0 ∧
      pool' = { pool with permits := pool.permits - 1 }.move worker .permitted := by
  unfold step at h
  simp only at h
  split at h
  case h_1 hphase =>
    split at h
    case isTrue => cases h
    case isFalse hpermits => exact ⟨hphase, hpermits, (Option.some.inj h).symm⟩
  case h_2 => cases h

/-- A worker with a permit looks at the flag. -/
theorem step_test_cases (h : pool.step (.test worker) = some pool') :
    pool.workers[worker]? = some .permitted ∧
      pool' = pool.move worker (if pool.stopping then .exited else .cleared) := by
  unfold step at h
  simp only at h
  split at h
  case h_1 hphase => exact ⟨hphase, (Option.some.inj h).symm⟩
  case h_2 => cases h

/-- A worker that need not leave finds the queue empty, or takes the first job. -/
theorem step_pop_cases (h : pool.step (.pop worker) = some pool') :
    pool.workers[worker]? = some .cleared ∧
      ((pool.queue = [] ∧ pool' = pool.move worker .waiting) ∨
        ∃ job queue, pool.queue = job :: queue ∧
          pool' = { pool with queue }.move worker (.handling job)) := by
  unfold step at h
  simp only at h
  split at h
  case h_1 hphase =>
    refine ⟨hphase, ?_⟩
    split at h
    case h_1 hqueue => exact Or.inl ⟨hqueue, (Option.some.inj h).symm⟩
    case h_2 job queue hqueue => exact Or.inr ⟨job, queue, hqueue, (Option.some.inj h).symm⟩
  case h_2 => cases h

/-- A worker lets go of the job in its hands. -/
theorem step_finish_cases (h : pool.step (.finish worker) = some pool') :
    ∃ job, pool.workers[worker]? = some (.handling job) ∧
      pool' = { pool with finished := job :: pool.finished }.move worker .waiting := by
  unfold step at h
  simp only at h
  split at h
  case h_1 job hphase => exact ⟨job, hphase, (Option.some.inj h).symm⟩
  case h_2 => cases h

theorem step_stop_cases (h : pool.step .stop = some pool') :
    pool.stopping = false ∧ pool' = { pool with stopping := true } := by
  unfold step at h
  simp only at h
  split at h
  case isTrue => cases h
  case isFalse hopen => exact ⟨Bool.eq_false_iff.mpr hopen, (Option.some.inj h).symm⟩

/-- The permits that let workers leave are added once, when the flag is set. -/
theorem step_dismiss_cases (h : pool.step .dismiss = some pool') :
    pool.stopping = true ∧ pool.dismissed = false ∧
      pool' = { pool with permits := pool.permits + pool.workers.length, dismissed := true } := by
  unfold step at h
  simp only at h
  split at h
  case isTrue hready =>
    rw [Bool.and_eq_true, Bool.not_eq_true'] at hready
    exact ⟨hready.1, hready.2, (Option.some.inj h).symm⟩
  case isFalse => cases h

/-! ## One worker among the others -/

theorem exists_others {phase : Phase J} (h : pool.workers[worker]? = some phase) :
    ∃ others, pool.workers.Perm (phase :: others) ∧
      ∀ phase', (pool.workers.set worker phase').Perm (phase' :: others) := by
  obtain ⟨hlt, rfl⟩ := List.getElem?_eq_some_iff.mp h
  exact ⟨_, (List.getElem_cons_eraseIdx_perm hlt).symm, fun phase' =>
    List.set_perm_cons_eraseIdx hlt phase'⟩

/-- The jobs in the hands of workers when one of them is moved: its own, and those of the
others. -/
theorem inHands_move {phase : Phase J} (h : pool.workers[worker]? = some phase)
    (phase' : Phase J) :
    ∃ rest, pool.inHands.Perm (phase.job?.toList ++ rest) ∧
      (pool.move worker phase').inHands.Perm (phase'.job?.toList ++ rest) := by
  obtain ⟨others, hbefore, hafter⟩ := exists_others h
  have hcons : ∀ phase : Phase J, (phase :: others).filterMap Phase.job?
      = phase.job?.toList ++ others.filterMap Phase.job? := by
    intro phase
    rw [List.filterMap_cons]
    cases phase.job? <;> rfl
  exact ⟨others.filterMap Phase.job?, hcons phase ▸ hbefore.filterMap _,
    hcons phase' ▸ (hafter phase').filterMap _⟩

/-- Who is about to look into the queue has a permit. -/
theorem Phase.isComing_of_isCleared {phase : Phase J} (h : phase.isCleared = true) :
    phase.isComing = true := by
  cases phase with
  | cleared => rfl
  | waiting => cases h
  | permitted => cases h
  | handling job => cases h
  | exited => cases h

theorem countP_move {phase : Phase J} (h : pool.workers[worker]? = some phase)
    (phase' : Phase J) (kind : Phase J → Bool) :
    (pool.move worker phase').workers.countP kind + (kind phase).toNat
      = pool.workers.countP kind + (kind phase').toNat := by
  obtain ⟨others, hbefore, hafter⟩ := exists_others h
  have hcons : ∀ phase : Phase J,
      (phase :: others).countP kind = others.countP kind + (kind phase).toNat := by
    intro phase
    cases hkind : kind phase <;> simp [hkind]
  rw [hbefore.countP_eq, hcons, show (pool.move worker phase').workers.countP kind = _ from
    (hafter phase').countP_eq kind, hcons]
  omega

/-! ## What a run keeps -/

theorem accepted_concat (log : List (Outcome J)) (o : Outcome J) :
    accepted (log ++ [o]) = accepted log ++ o.accepted?.toList := by
  rw [accepted, List.filterMap_append]
  cases h : o.accepted? <;> simp [accepted, h]

theorem begun_concat (log : List (Outcome J)) (o : Outcome J) :
    begun (log ++ [o]) = begun log ++ o.begun?.toList := by
  rw [begun, List.filterMap_append]
  cases h : o.begun? <;> simp [begun, h]

/-- A pool accounts for every job that the log tells of. -/
structure Kept (capacity : Nat) (log : List (Outcome J)) (pool : WorkerPool J) : Prop where
  capacity_eq : pool.capacity = capacity
  length_le : pool.queue.length ≤ capacity
  /-- Jobs are taken in the order in which they were put in. -/
  accepted_eq : accepted log = begun log ++ pool.queue
  /-- A job that was taken is in somebody's hands, or done. -/
  begun_perm : (begun log).Perm (pool.inHands ++ pool.finished)
  /-- Who may look into the queue finds something there. -/
  cleared_le : pool.workers.countP Phase.isCleared ≤ pool.queue.length
  /-- As long as nobody has to leave, permits stand for jobs. -/
  length_eq : pool.stopping = false →
    pool.queue.length = pool.permits + pool.coming + pool.owed
  found : ∀ worker, .missed worker ∉ log

variable {capacity : Nat} {log : List (Outcome J)} {e : Event J}

theorem Kept.queue_ne_nil_of_cleared (h : Kept capacity log pool)
    (hphase : pool.workers[worker]? = some .cleared) : pool.queue ≠ [] := by
  have hsome : 0 < pool.workers.countP Phase.isCleared :=
    List.countP_pos_iff.mpr ⟨_, List.mem_of_getElem? hphase, rfl⟩
  exact List.length_pos_iff.mp (Nat.lt_of_lt_of_le hsome h.cleared_le)

theorem Kept.queue_ne_nil_of_permitted (h : Kept capacity log pool)
    (hopen : pool.stopping = false) (hphase : pool.workers[worker]? = some .permitted) :
    pool.queue ≠ [] := by
  have hsome : 0 < pool.coming :=
    List.countP_pos_iff.mpr ⟨_, List.mem_of_getElem? hphase, rfl⟩
  have hlength := h.length_eq hopen
  exact List.length_pos_iff.mp (by omega)

theorem kept_start (workers capacity : Nat) :
    Kept capacity []
      ({ capacity, workers := List.replicate workers .waiting } : WorkerPool J) where
  capacity_eq := rfl
  length_le := Nat.zero_le _
  accepted_eq := rfl
  begun_perm := by
    simp only [inHands, List.filterMap_replicate, Phase.job?]
    exact List.Perm.refl _
  cleared_le := by simp [Phase.isCleared]
  length_eq := fun _ => by simp [coming, List.countP_replicate, Phase.isComing]
  found := fun _ => List.not_mem_nil

theorem Kept.of_silent (h : Kept capacity log pool) {o : Outcome J}
    (ho : o.accepted? = none ∧ o.begun? = none ∧ ∀ worker, o ≠ .missed worker)
    (hcapacity : pool'.capacity = pool.capacity) (hqueue : pool'.queue = pool.queue)
    (hhands : pool'.inHands.Perm pool.inHands) (hfinished : pool'.finished = pool.finished)
    (hcleared : pool'.workers.countP Phase.isCleared ≤ pool.queue.length)
    (hlength : pool'.stopping = false →
      pool.queue.length = pool'.permits + pool'.coming + pool'.owed) :
    Kept capacity (log ++ [o]) pool' where
  capacity_eq := hcapacity.trans h.capacity_eq
  length_le := hqueue ▸ h.length_le
  accepted_eq := by
    rw [accepted_concat, begun_concat, ho.1, ho.2.1, hqueue]
    simpa using h.accepted_eq
  begun_perm := by
    rw [begun_concat, ho.2.1, hfinished]
    simpa using h.begun_perm.trans (hhands.symm.append_right _)
  cleared_le := hqueue ▸ hcleared
  length_eq := hqueue ▸ hlength
  found := fun worker hmem => by
    rcases List.mem_append.mp hmem with hmem | hmem
    · exact h.found worker hmem
    · exact ho.2.2 worker (List.mem_singleton.mp hmem).symm

theorem Kept.offer (h : Kept capacity log pool) {job : J}
    (hstep : pool.step (.offer job) = some pool') :
    Kept capacity (log ++ [pool.outcome (.offer job)]) pool' := by
  rcases step_offer_cases hstep with ⟨rfl, houtcome⟩ | ⟨hroom, houtcome, rfl⟩
  · rw [houtcome]
    exact h.of_silent ⟨rfl, rfl, nofun⟩ rfl rfl (List.Perm.refl _) rfl h.cleared_le h.length_eq
  · rw [houtcome]
    rw [h.capacity_eq] at hroom
    refine ⟨h.capacity_eq, ?_, ?_, ?_, ?_, fun hopen => ?_, fun worker hmem => ?_⟩
    · rw [List.length_append]
      exact hroom
    · rw [accepted_concat, begun_concat, h.accepted_eq]
      simp [Outcome.accepted?, Outcome.begun?]
    · rw [begun_concat]
      exact (List.append_nil (begun log)).symm ▸ h.begun_perm
    · rw [List.length_append]
      exact Nat.le_add_right_of_le h.cleared_le
    · have hlength := h.length_eq hopen
      simp only [coming, List.length_append, List.length_singleton] at hlength ⊢
      omega
    · rcases List.mem_append.mp hmem with hmem | hmem
      · exact h.found worker hmem
      · cases List.mem_singleton.mp hmem

theorem Kept.take (h : Kept capacity log pool) (hstep : pool.step (.take worker) = some pool') :
    Kept capacity (log ++ [pool.outcome (.take worker)]) pool' := by
  obtain ⟨hphase, hpermits, rfl⟩ := step_take_cases hstep
  have hcleared := countP_move hphase .permitted Phase.isCleared
  have hcoming := countP_move hphase .permitted Phase.isComing
  obtain ⟨rest, hbefore, hafter⟩ := inHands_move hphase .permitted
  refine h.of_silent ⟨rfl, rfl, nofun⟩ rfl rfl (hafter.trans hbefore.symm) rfl ?_
    (fun hopen => ?_)
  · have hle := h.cleared_le
    simp only [Phase.isCleared, Bool.toNat_false, WorkerPool.move] at hcleared ⊢
    omega
  · have hlength := h.length_eq hopen
    simp only [Phase.isComing, Bool.toNat_false, Bool.toNat_true, WorkerPool.move, coming]
      at hcoming hlength ⊢
    omega

/-- A worker with a permit leaves if the flag is set, and else has a claim to a job. -/
theorem Kept.test (h : Kept capacity log pool) (hstep : pool.step (.test worker) = some pool') :
    Kept capacity (log ++ [pool.outcome (.test worker)]) pool' := by
  obtain ⟨hphase, rfl⟩ := step_test_cases hstep
  cases hstopping : pool.stopping with
  | true =>
    have hcleared := countP_move hphase .exited Phase.isCleared
    obtain ⟨rest, hbefore, hafter⟩ := inHands_move hphase .exited
    rw [if_pos rfl]
    refine h.of_silent ⟨rfl, rfl, nofun⟩ rfl rfl (hafter.trans hbefore.symm) rfl ?_
      (fun hopen => ?_)
    · have hle := h.cleared_le
      simp only [Phase.isCleared, Bool.toNat_false] at hcleared ⊢
      omega
    · cases hstopping.symm.trans hopen
  | false =>
    have hcoming := countP_move hphase .cleared Phase.isComing
    have hlength := h.length_eq hstopping
    obtain ⟨rest, hbefore, hafter⟩ := inHands_move hphase .cleared
    rw [if_neg Bool.false_ne_true]
    refine h.of_silent ⟨rfl, rfl, nofun⟩ rfl rfl (hafter.trans hbefore.symm) rfl ?_ (fun _ => ?_)
    · -- this worker is one of those that the queue is long enough for
      have hboth : (pool.move worker .cleared).workers.countP Phase.isCleared
          ≤ (pool.move worker .cleared).coming :=
        List.countP_mono_left fun _ _ => Phase.isComing_of_isCleared
      simp only [Phase.isComing, Bool.toNat_true, coming] at hcoming hlength hboth ⊢
      exact Nat.le_trans hboth (by omega)
    · simp only [Phase.isComing, Bool.toNat_true, coming, WorkerPool.move] at hcoming hlength ⊢
      omega

/-- A worker with a claim to a job takes the first one. -/
theorem Kept.pop (h : Kept capacity log pool) (hstep : pool.step (.pop worker) = some pool') :
    Kept capacity (log ++ [pool.outcome (.pop worker)]) pool' := by
  obtain ⟨hphase, ⟨hnil, -⟩ | ⟨job, queue, hqueue, rfl⟩⟩ := step_pop_cases hstep
  · exact absurd hnil (h.queue_ne_nil_of_cleared hphase)
  · have houtcome : pool.outcome (.pop worker) = .begun worker job := by
      simp only [outcome, hphase, hqueue]
    have hcleared := countP_move hphase (.handling job) Phase.isCleared
    have hcoming := countP_move hphase (.handling job) Phase.isComing
    obtain ⟨rest, hbefore, hafter⟩ := inHands_move hphase (.handling job)
    have hle := h.cleared_le
    have hfit := h.length_le
    rw [hqueue, List.length_cons] at hle hfit
    rw [houtcome]
    refine ⟨h.capacity_eq, Nat.le_of_succ_le hfit, ?_, ?_, ?_, fun hopen => ?_,
      fun worker' hmem => ?_⟩
    · rw [accepted_concat, begun_concat, h.accepted_eq, hqueue]
      simp [Outcome.accepted?, Outcome.begun?, WorkerPool.move]
    · rw [begun_concat]
      refine (List.perm_append_singleton job _).trans (.trans (.cons job ?_)
        (hafter.symm.append_right _))
      exact h.begun_perm.trans (hbefore.append_right _)
    · simp only [Phase.isCleared, Bool.toNat_false, Bool.toNat_true, WorkerPool.move]
        at hcleared ⊢
      omega
    · have hlength := h.length_eq hopen
      rw [hqueue, List.length_cons] at hlength
      simp only [Phase.isComing, Bool.toNat_false, Bool.toNat_true, WorkerPool.move, coming]
        at hcoming hlength ⊢
      omega
    · rcases List.mem_append.mp hmem with hmem | hmem
      · exact h.found worker' hmem
      · cases List.mem_singleton.mp hmem

theorem Kept.finish (h : Kept capacity log pool)
    (hstep : pool.step (.finish worker) = some pool') :
    Kept capacity (log ++ [pool.outcome (.finish worker)]) pool' := by
  obtain ⟨job, hphase, rfl⟩ := step_finish_cases hstep
  have hcleared := countP_move hphase .waiting Phase.isCleared
  have hcoming := countP_move hphase .waiting Phase.isComing
  obtain ⟨rest, hbefore, hafter⟩ := inHands_move hphase .waiting
  refine ⟨h.capacity_eq, h.length_le, ?_, ?_, ?_, fun hopen => ?_, fun worker' hmem => ?_⟩
  · rw [accepted_concat, begun_concat]
    exact (congrArg (· ++ []) h.accepted_eq).trans
      (by simp [outcome, Outcome.begun?, WorkerPool.move])
  · rw [begun_concat]
    refine (List.append_nil (begun log)).symm ▸ h.begun_perm.trans ?_
    refine (hbefore.append_right _).trans (.trans ?_ (hafter.symm.append_right _))
    exact List.perm_middle.symm
  · have hle := h.cleared_le
    simp only [Phase.isCleared, Bool.toNat_false, WorkerPool.move] at hcleared ⊢
    omega
  · have hlength := h.length_eq hopen
    simp only [Phase.isComing, Bool.toNat_false, WorkerPool.move, coming] at hcoming hlength ⊢
    omega
  · rcases List.mem_append.mp hmem with hmem | hmem
    · exact h.found worker' hmem
    · cases List.mem_singleton.mp hmem

/-- Every step keeps the accounts. -/
theorem Kept.step (h : Kept capacity log pool) (hstep : pool.step e = some pool') :
    Kept capacity (log ++ [pool.outcome e]) pool' := by
  cases e with
  | offer job => exact h.offer hstep
  | post =>
    obtain ⟨howed, rfl⟩ := step_post_cases hstep
    refine h.of_silent ⟨rfl, rfl, nofun⟩ rfl rfl (List.Perm.refl _) rfl h.cleared_le fun hopen => ?_
    have hlength := h.length_eq hopen
    simp only [coming] at hlength ⊢
    omega
  | take worker => exact h.take hstep
  | test worker => exact h.test hstep
  | pop worker => exact h.pop hstep
  | finish worker => exact h.finish hstep
  | stop =>
    obtain ⟨-, rfl⟩ := step_stop_cases hstep
    exact h.of_silent ⟨rfl, rfl, nofun⟩ rfl rfl (List.Perm.refl _) rfl h.cleared_le nofun
  | dismiss =>
    obtain ⟨hstopping, -, rfl⟩ := step_dismiss_cases hstep
    exact h.of_silent ⟨rfl, rfl, nofun⟩ rfl rfl (List.Perm.refl _) rfl h.cleared_le
      fun hopen => by cases hstopping.symm.trans hopen

theorem Kept.run {events : List (Event J)} (h : Kept capacity log pool)
    (hrun : pool.run events = some pool') : Kept capacity (log ++ pool.log events) pool' := by
  induction events generalizing pool log with
  | nil =>
    obtain rfl := Option.some.inj hrun
    rwa [WorkerPool.log, List.append_nil]
  | cons e events ih =>
    obtain ⟨next, hstep, hrun⟩ := Option.bind_eq_some_iff.mp hrun
    rw [WorkerPool.log, hstep, List.append_cons]
    exact ih (h.step hstep) hrun

/-! ## Every run -/

/-- **Every job is done once and in its turn.**  A pool can be made if there is a worker and
room for a job.  Whatever its threads have done since, in whatever order:

* there are never more jobs in the queue than there is room for, and a job that is handed in
  to a full queue comes back and leaves everything as it was;
* workers take the jobs in the order in which they were put in, and each of these jobs is in
  the queue, in the hands of a worker or done, once;
* while the flag is not set there are as many jobs in the queue as permits, workers on the way
  from a permit to a job and threads that still owe a permit;
* a worker that has a permit finds a job, unless it finds the flag set and leaves; nobody has
  ever looked for a job in vain. -/
theorem jobs_done_in_turn {workers capacity : Nat} (hworkers : 1 ≤ workers)
    (hcapacity : 1 ≤ capacity) :
    ∃ start : WorkerPool J, make workers capacity = .ok start ∧
      start.workers.length = workers ∧
      ∀ (events : List (Event J)) (pool : WorkerPool J), start.run events = some pool →
        let log := start.log events
        (pool.queue.length ≤ capacity ∧
          ∀ job, capacity ≤ pool.queue.length →
            pool.offer job = .error job ∧ pool.step (.offer job) = some pool) ∧
        (accepted log = begun log ++ pool.queue ∧
          (accepted log).Perm (pool.queue ++ pool.inHands ++ pool.finished)) ∧
        (pool.stopping = false →
          pool.queue.length = pool.permits + pool.coming + pool.owed) ∧
        (∀ worker : Nat, pool.workers[worker]? = some .cleared →
          ∃ job queue, pool.queue = job :: queue ∧
            pool.step (.pop worker) = some ({ pool with queue }.move worker (.handling job))) ∧
        (∀ worker : Nat, pool.workers[worker]? = some .permitted → pool.stopping = false →
          pool.queue ≠ []) ∧
        ∀ worker, .missed worker ∉ log := by
  refine ⟨{ capacity, workers := List.replicate workers .waiting }, ?_, by simp, ?_⟩
  · rw [make, if_neg (by omega), if_neg (by omega)]
  · intro events pool hrun log
    have h : Kept capacity log pool := (kept_start workers capacity).run hrun
    refine ⟨⟨h.length_le, fun job hfull => ?_⟩, ⟨h.accepted_eq, ?_⟩, h.length_eq,
      fun worker hphase => ?_, fun worker hphase hopen => h.queue_ne_nil_of_permitted hopen hphase,
      h.found⟩
    · have hoffer : pool.offer job = .error job := by
        rw [WorkerPool.offer, if_pos (h.capacity_eq ▸ hfull)]
      exact ⟨hoffer, by simp only [WorkerPool.step, hoffer]⟩
    · rw [h.accepted_eq, List.append_assoc]
      exact List.perm_append_comm.trans (h.begun_perm.append_left _)
    · obtain ⟨job, queue, hqueue⟩ := List.exists_cons_of_ne_nil (h.queue_ne_nil_of_cleared hphase)
      exact ⟨job, queue, hqueue, by simp only [WorkerPool.step, hphase, hqueue]⟩

/-- Two workers and room for one job: the second job comes back, and the third is handed in while
a worker has the first. -/
theorem jobs_done_in_turn_of_full_queue :
    let start : WorkerPool Nat := { capacity := 1, workers := [.waiting, .waiting] }
    let events : List (Event Nat) :=
      [.offer 1, .offer 2, .post, .take 1, .test 1, .pop 1, .offer 3, .post, .take 0]
    let pool : WorkerPool Nat :=
      { capacity := 1, queue := [3], workers := [.permitted, .handling 1] }
    make 2 1 = .ok start ∧ start.run events = some pool ∧
      accepted (start.log events) = [1, 3] ∧ begun (start.log events) = [1] ∧
      (pool.queue ++ pool.inHands ++ pool.finished).Perm [1, 3] ∧
      pool.offer 4 = .error 4 ∧ pool.queue.length = pool.permits + pool.coming + pool.owed := by
  intro start events pool
  have hrun : start.run events = some pool := by decide
  obtain ⟨start', hmake, -, hruns⟩ := jobs_done_in_turn (J := Nat) (show 1 ≤ 2 by decide)
    (Nat.le_refl 1)
  obtain rfl : start = start' := Except.ok.inj hmake
  obtain ⟨⟨-, hfull⟩, ⟨-, hperm⟩, hlength, -⟩ := hruns events pool hrun
  exact ⟨hmake, hrun, by decide, by decide, hperm.symm, (hfull 4 (by decide)).1, hlength rfl⟩

end WorkerPool
end SiteServer
