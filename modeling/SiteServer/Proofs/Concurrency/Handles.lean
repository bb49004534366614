import Mathlib.Data.List.Range
import Mathlib.Data.List.Perm.Basic
import SiteServer.Concurrency.HandlePool

/-!
# Handles are kept

The handles of a pool are never lost and never in two places, whatever the threads do that
check them out and drop them (`HandlePool.handles_kept`).

That no handle is lost is a matter of each event, since every one of them moves a handle from
one place to another (`everywhere_step`).  That a thread with a permit finds a handle is not:
permits and handles are behind two locks.  What holds of them at every moment is that there
are as many handles in the pool as permits, threads with a permit and no handle yet, and
threads that have put back a handle and not yet its permit (`Sound.length_eq`).
-/

namespace SiteServer

namespace Semaphore

variable {s s' : Semaphore} {outcome : Outcome}

theorem takeOrSleep_cases {w : Waiter} (h : s.takeOrSleep w = (outcome, s')) :
    (outcome = .granted ∧ s.permits = s'.permits + 1) ∨
      (outcome ≠ .granted ∧ s.permits = 0 ∧ s'.permits = 0) := by
  unfold takeOrSleep at h
  split at h
  case isTrue hnone =>
    cases h
    exact Or.inr ⟨nofun, hnone, hnone⟩
  case isFalse hsome =>
    cases h
    exact Or.inl ⟨rfl, by simp only; omega⟩

theorem takeOrLeave_cases (h : s.takeOrLeave = (outcome, s')) :
    (outcome = .granted ∧ s.permits = s'.permits + 1) ∨
      (outcome ≠ .granted ∧ s.permits = 0 ∧ s'.permits = 0) := by
  unfold takeOrLeave at h
  split at h
  case isTrue hnone =>
    cases h
    exact Or.inr ⟨nofun, hnone, hnone⟩
  case isFalse hsome =>
    cases h
    exact Or.inl ⟨rfl, by simp only; omega⟩

/-- Whoever asks for a permit takes one, or there is none. -/
theorem step_cases {e : Event} (h : s.step e = some (outcome, s'))
    (he : ∀ count, e ≠ .release count) :
    (outcome = .granted ∧ s.permits = s'.permits + 1) ∨
      (outcome ≠ .granted ∧ s.permits = 0 ∧ s'.permits = 0) := by
  cases e with
  | tryAcquire => exact takeOrLeave_cases (Option.some.inj h)
  | arrive w => exact takeOrSleep_cases (Option.some.inj h)
  | resume w =>
    unfold step at h
    simp only at h
    split at h
    case isTrue =>
      exact takeOrSleep_cases (s := { s with woken := s.woken.erase w }) (Option.some.inj h)
    case isFalse => cases h
  | stir w =>
    unfold step at h
    simp only at h
    split at h
    case isTrue =>
      exact takeOrSleep_cases (s := { s with sleeping := s.sleeping.erase w }) (Option.some.inj h)
    case isFalse => cases h
  | expire w =>
    unfold step at h
    simp only at h
    split at h
    case isTrue =>
      exact takeOrLeave_cases (s := { s with sleeping := s.sleeping.erase w }) (Option.some.inj h)
    case isFalse => cases h
  | release count => exact absurd rfl (he count)

theorem granted_iff {e : Event} (h : s.step e = some (outcome, s'))
    (he : ∀ count, e ≠ .release count) : outcome = .granted ↔ s.permits ≠ 0 := by
  rcases step_cases h he with ⟨rfl, hpermits⟩ | ⟨hne, hnone, -⟩
  · exact ⟨fun _ => by omega, fun _ => rfl⟩
  · exact ⟨fun heq => absurd heq hne, fun hsome => absurd hnone hsome⟩

end Semaphore

namespace HandlePool

variable {α : Type} {pool pool' : HandlePool α} {e : Event α} {guard : Nat}

/-! ## The steps -/

/-- Who asks for a permit has a claim to a handle then, or there is no permit. -/
theorem ask_cases {e : Semaphore.Event} (h : pool.ask e = some pool') :
    ∃ permits, (pool' = { pool with permits, claims := pool.claims + 1 } ∧
        pool.permits.permits = permits.permits + 1) ∨
      (pool' = { pool with permits } ∧ pool.permits.permits = 0 ∧ permits.permits = 0) := by
  unfold ask at h
  split at h
  case h_1 => cases h
  case h_2 he =>
    obtain ⟨⟨outcome, permits⟩, hstep, rfl⟩ := Option.map_eq_some_iff.mp h
    refine ⟨permits, ?_⟩
    rcases Semaphore.step_cases hstep he with ⟨rfl, hpermits⟩ | ⟨hne, hnone, hnone'⟩
    · exact Or.inl ⟨by simp only [if_true], hpermits⟩
    · exact Or.inr ⟨by simp only [if_neg hne], hnone, hnone'⟩

/-- A thread that takes a handle has a claim to one. -/
theorem step_takeHandle_cases (h : pool.step (.takeHandle guard) = some pool') :
    pool.claims ≠ 0 ∧ pool' = pool.checkOut guard := by
  unfold step at h
  simp only at h
  split at h
  case isTrue => cases h
  case isFalse hready =>
    rw [Bool.or_eq_true, not_or, decide_eq_true_eq] at hready
    exact ⟨hready.1, (Option.some.inj h).symm⟩

/-- What a guard lets go of is on its way back. -/
theorem step_drop_cases (h : pool.step (.drop guard) = some pool') :
    (pool.held.lookup guard = some none ∧
        pool' = { pool with held := pool.held.eraseP (isOf guard) }) ∨
      ∃ handle, pool.held.lookup guard = some (some handle) ∧
        pool' = { pool with
          held := pool.held.eraseP (isOf guard)
          returning := (guard, handle) :: pool.returning } := by
  unfold step at h
  simp only at h
  split at h
  case h_1 => cases h
  case h_2 hempty => exact Or.inl ⟨hempty, (Option.some.inj h).symm⟩
  case h_3 handle hfull => exact Or.inr ⟨handle, hfull, (Option.some.inj h).symm⟩

theorem step_putBack_cases (h : pool.step (.putBack guard) = some pool') :
    ∃ handle, pool.returning.lookup guard = some handle ∧
      pool' = { pool with
        idle := handle :: pool.idle
        returning := pool.returning.eraseP (isOf guard)
        owed := pool.owed + 1 } := by
  unfold step at h
  simp only at h
  split at h
  case h_1 => cases h
  case h_2 handle hlookup => exact ⟨handle, hlookup, (Option.some.inj h).symm⟩

theorem step_giveBack_cases (h : pool.step .giveBack = some pool') :
    pool.owed ≠ 0 ∧
      pool' = { pool with permits := pool.permits.release 1, owed := pool.owed - 1 } := by
  unfold step at h
  simp only at h
  split at h
  case isTrue => cases h
  case isFalse howed => exact ⟨howed, (Option.some.inj h).symm⟩

/-- A handle that is changed is the same handle. -/
theorem step_change_cases {content : α} (h : pool.step (.change guard content) = some pool') :
    ∃ handle, pool.held.lookup guard = some (some handle) ∧
      pool' = { pool with
        held := (guard, some { handle with content }) :: pool.held.eraseP (isOf guard) } := by
  unfold step at h
  simp only at h
  split at h
  case h_1 => cases h
  case h_2 handle hhandle =>
    exact ⟨handle, Option.join_eq_some_iff.mp hhandle, (Option.some.inj h).symm⟩

/-! ## Where the handles are -/

/-- What is looked up is one of the entries, and the others are left when it is erased. -/
theorem perm_of_lookup {β : Type} {l : List (Nat × β)} {x : β} (h : l.lookup guard = some x) :
    l.Perm ((guard, x) :: l.eraseP (isOf guard)) := by
  induction l with
  | nil => cases h
  | cons g l ih =>
    obtain ⟨k, y⟩ := g
    by_cases hk : k = guard
    · subst hk
      rw [List.lookup_cons_self] at h
      obtain rfl := Option.some.inj h
      rw [List.eraseP_cons_of_pos (by simp [isOf])]
    · rw [List.lookup_cons, beq_eq_false_iff_ne.mpr (Ne.symm hk)] at h
      rw [List.eraseP_cons_of_neg (by simp [isOf, hk])]
      exact ((ih h).cons _).trans (.swap _ _ _)

theorem inGuards_perm {handle : Handle α} (h : pool.held.lookup guard = some (some handle)) :
    pool.inGuards.Perm (handle :: (pool.held.eraseP (isOf guard)).filterMap (·.2)) :=
  (perm_of_lookup h).filterMap _

/-- No event loses a handle or makes one, and only a change makes it hold something else. -/
theorem everywhere_step (h : pool.step e = some pool') :
    (pool'.everywhere.map Handle.number).Perm (pool.everywhere.map Handle.number) ∧
      (e.isChange = false → pool'.everywhere.Perm pool.everywhere) := by
  have hsame : pool'.everywhere.Perm pool.everywhere →
      (pool'.everywhere.map Handle.number).Perm (pool.everywhere.map Handle.number) ∧
        (e.isChange = false → pool'.everywhere.Perm pool.everywhere) :=
    fun hperm => ⟨hperm.map _, fun _ => hperm⟩
  cases e with
  | ask e =>
    obtain ⟨permits, ⟨rfl, -⟩ | ⟨rfl, -⟩⟩ := ask_cases h <;> exact hsame (.refl _)
  | takeHandle guard =>
    obtain ⟨-, rfl⟩ := step_takeHandle_cases h
    apply hsame
    unfold checkOut
    split
    case h_1 => exact .refl _
    case h_2 handle idle hidle =>
      simp only [everywhere, inGuards, inTransit, hidle, List.append_assoc, List.cons_append]
      exact List.perm_middle
  | drop guard =>
    apply hsame
    rcases step_drop_cases h with ⟨hempty, rfl⟩ | ⟨handle, hfull, rfl⟩
    · have hguards : pool.inGuards.Perm ((pool.held.eraseP (isOf guard)).filterMap (·.2)) :=
        (perm_of_lookup hempty).filterMap _
      exact (hguards.symm.append_left _).append_right _
    · simp only [everywhere, inTransit, List.map_cons]
      refine List.perm_middle.trans (.trans ?_
        (((inGuards_perm hfull).symm.append_left pool.idle).append_right _))
      rw [List.append_assoc, List.append_assoc, List.cons_append]
      exact List.perm_middle.symm
  | putBack guard =>
    obtain ⟨handle, hlookup, rfl⟩ := step_putBack_cases h
    apply hsame
    have htransit : pool.inTransit.Perm
        (handle :: (pool.returning.eraseP (isOf guard)).map (·.2)) := (perm_of_lookup hlookup).map _
    exact List.perm_middle.symm.trans (htransit.symm.append_left _)
  | giveBack =>
    obtain ⟨-, rfl⟩ := step_giveBack_cases h
    exact hsame (.refl _)
  | change guard content =>
    obtain ⟨handle, hlookup, rfl⟩ := step_change_cases h
    refine ⟨?_, nofun⟩
    have hguards := (inGuards_perm hlookup).map Handle.number
    simp only [everywhere, List.map_append]
    refine (List.Perm.append_left _ ?_).append_right _
    exact hguards.symm

/-! ## What a run keeps -/

/-- A pool has all its handles, and as many permits as it can give out. -/
structure Sound (size : Nat) (pool : HandlePool α) : Prop where
  size_eq : pool.size = size
  numbers : (pool.everywhere.map Handle.number).Perm (List.range size)
  /-- For each handle in the pool there is a permit, somebody who has one, or somebody who is
  about to give one back. -/
  length_eq : pool.idle.length = pool.permits.permits + pool.claims + pool.owed
  full : ∀ g ∈ pool.held, g.2.isSome

theorem number_numbered (contents : List α) :
    (numbered contents).map Handle.number = List.range contents.length := by
  rw [numbered, List.map_map, List.range_eq_range', ← List.zipIdx_map_snd]
  rfl

theorem sound_ofHandles (contents : List α) : Sound contents.length (ofHandles contents) where
  size_eq := rfl
  numbers := by
    simp only [everywhere, ofHandles, inGuards, inTransit, List.filterMap_nil, List.map_nil,
      List.append_nil, List.map_reverse, number_numbered]
    exact List.reverse_perm _
  length_eq := by simp [ofHandles, numbered, Semaphore.ofPermits]
  full := List.forall_mem_nil _

variable {size : Nat}

/-- Whoever has a permit finds a handle. -/
theorem Sound.checkOut_eq (h : Sound size pool) (hclaims : pool.claims ≠ 0) (guard : Nat) :
    ∃ handle idle, pool.idle = handle :: idle ∧
      pool.checkOut guard = { pool with
        idle, claims := pool.claims - 1, held := (guard, some handle) :: pool.held } := by
  have hlength := h.length_eq
  cases hidle : pool.idle with
  | nil =>
    rw [hidle, List.length_nil] at hlength
    omega
  | cons handle idle => exact ⟨handle, idle, rfl, by simp only [checkOut, hidle]⟩

/-- Every step keeps a pool sound. -/
theorem Sound.step (h : Sound size pool) (hstep : pool.step e = some pool') :
    Sound size pool' := by
  have hnumbers := (everywhere_step hstep).1.trans h.numbers
  have hlength := h.length_eq
  have herase : ∀ guard, ∀ g ∈ pool.held.eraseP (isOf guard), g.2.isSome :=
    fun guard g hg => h.full g (List.mem_of_mem_eraseP hg)
  cases e with
  | ask e =>
    obtain ⟨permits, ⟨rfl, hpermits⟩ | ⟨rfl, hnone, hnone'⟩⟩ := ask_cases hstep
    · exact ⟨h.size_eq, hnumbers, by simp only; omega, h.full⟩
    · exact ⟨h.size_eq, hnumbers, by simp only; omega, h.full⟩
  | takeHandle guard =>
    obtain ⟨hclaims, rfl⟩ := step_takeHandle_cases hstep
    obtain ⟨handle, idle, hidle, heq⟩ := h.checkOut_eq hclaims guard
    rw [heq] at hnumbers ⊢
    rw [hidle, List.length_cons] at hlength
    exact ⟨h.size_eq, hnumbers, by simp only; omega, List.forall_mem_cons.mpr ⟨rfl, h.full⟩⟩
  | drop guard =>
    rcases step_drop_cases hstep with ⟨-, rfl⟩ | ⟨handle, -, rfl⟩
    · exact ⟨h.size_eq, hnumbers, hlength, herase guard⟩
    · exact ⟨h.size_eq, hnumbers, hlength, herase guard⟩
  | putBack guard =>
    obtain ⟨handle, -, rfl⟩ := step_putBack_cases hstep
    exact ⟨h.size_eq, hnumbers, by simp only [List.length_cons]; omega, h.full⟩
  | giveBack =>
    obtain ⟨howed, rfl⟩ := step_giveBack_cases hstep
    exact ⟨h.size_eq, hnumbers, by simp only [Semaphore.release]; omega, h.full⟩
  | change guard content =>
    obtain ⟨handle, -, rfl⟩ := step_change_cases hstep
    exact ⟨h.size_eq, hnumbers, hlength, List.forall_mem_cons.mpr ⟨rfl, herase guard⟩⟩

theorem Sound.run {events : List (Event α)} (h : Sound size pool)
    (hrun : pool.run events = some pool') : Sound size pool' := by
  induction events generalizing pool with
  | nil =>
    obtain rfl := Option.some.inj hrun
    exact h
  | cons e events ih =>
    obtain ⟨next, hstep, hrun⟩ := Option.bind_eq_some_iff.mp hrun
    exact ih (h.step hstep) hrun

/-- A run that changes nothing of what handles hold leaves them as they were. -/
theorem everywhere_run {events : List (Event α)} (hrun : pool.run events = some pool')
    (hevents : ∀ e ∈ events, e.isChange = false) : pool'.everywhere.Perm pool.everywhere := by
  induction events generalizing pool with
  | nil =>
    obtain rfl := Option.some.inj hrun
    exact .refl _
  | cons e events ih =>
    obtain ⟨next, hstep, hrun⟩ := Option.bind_eq_some_iff.mp hrun
    obtain ⟨hfirst, hevents⟩ := List.forall_mem_cons.mp hevents
    exact (ih hrun hevents).trans ((everywhere_step hstep).2 hfirst)

theorem Sound.length_inGuards (h : Sound size pool) : pool.inGuards.length = pool.held.length := by
  rw [inGuards, List.length_filterMap_eq_countP, List.countP_eq_length]
  exact h.full

/-- With nothing under way there is a permit for each handle in the pool, and the others are in
guards. -/
theorem Sound.available_eq (h : Sound size pool) (hclaims : pool.claims = 0)
    (hreturning : pool.returning = []) (howed : pool.owed = 0) :
    pool.permits.permits = pool.available ∧ pool.available = pool.size - pool.held.length ∧
      pool.held.length ≤ pool.size := by
  have hlength := h.length_eq
  have hall := h.numbers.length_eq
  have hguards := h.length_inGuards
  have hsize := h.size_eq
  simp only [everywhere, inTransit, hreturning, List.map_nil, List.append_nil, List.length_map,
    List.length_append, List.length_range] at hall
  simp only [available]
  omega

/-- **Handles are neither lost nor shared.**  Whatever has been done to a pool since it was made,
by however many threads and in whatever order:

* each handle is in one place: in the pool, in one guard, or on its way back; and if nobody has
  changed what a handle holds, they hold what they held at first;
* every guard holds a handle, and who has a permit takes the first handle of the pool, of which
  there is always one;
* a permit is refused only if there is none;
* when nothing is under way there are as many permits as handles in the pool, and these are all
  but one for each guard. -/
theorem handles_kept (contents : List α) {events : List (Event α)}
    (hrun : (ofHandles contents).run events = some pool) :
    ((pool.everywhere.map Handle.number).Perm (List.range contents.length) ∧
      (pool.everywhere.map Handle.number).Nodup ∧
      ((∀ e ∈ events, e.isChange = false) → pool.everywhere.Perm (numbered contents))) ∧
    ((∀ guard held, (guard, held) ∈ pool.held → ∃ handle, held = some handle) ∧
      pool.claims ≤ pool.idle.length ∧
      ∀ guard later, pool.step (.takeHandle guard) = some later →
        ∃ handle, pool.idle = handle :: later.idle ∧ later.handle? guard = some handle) ∧
    (∀ e outcome permits, pool.permits.step e = some (outcome, permits) →
      (∀ count, e ≠ .release count) → outcome ≠ .granted → pool.permits.permits = 0) ∧
    (pool.claims = 0 → pool.returning = [] → pool.owed = 0 →
      pool.permits.permits = pool.available ∧
        pool.available = contents.length - pool.held.length ∧
        pool.held.length ≤ contents.length) := by
  have h : Sound contents.length pool := (sound_ofHandles contents).run hrun
  have hlength := h.length_eq
  refine ⟨⟨h.numbers, h.numbers.nodup_iff.mpr List.nodup_range, fun hevents => ?_⟩,
    ⟨fun guard held hmem => Option.isSome_iff_exists.mp (h.full _ hmem), by omega,
      fun guard later hstep => ?_⟩,
    fun e outcome permits hstep he hne => ?_, fun hclaims hreturning howed => ?_⟩
  · refine (everywhere_run hrun hevents).trans ?_
    simp only [everywhere, ofHandles, inGuards, inTransit, List.filterMap_nil, List.map_nil,
      List.append_nil]
    exact List.reverse_perm _
  · obtain ⟨hclaims, rfl⟩ := step_takeHandle_cases hstep
    obtain ⟨handle, idle, hidle, heq⟩ := h.checkOut_eq hclaims guard
    rw [heq]
    exact ⟨handle, hidle, by simp [handle?]⟩
  · exact Decidable.not_not.mp fun hsome => hne ((Semaphore.granted_iff hstep he).mpr hsome)
  · have hquiet := h.available_eq hclaims hreturning howed
    rwa [h.size_eq] at hquiet

/-- Two handles and three threads: one has a handle in a guard, another is between putting its
handle back and giving back the permit, and a third sleeps because there is no permit. -/
theorem handles_kept_of_sleeper :
    let pool : HandlePool String :=
      { idle := [⟨1, "b"⟩], permits := { permits := 0, sleeping := [⟨7, false⟩] }, size := 2
        owed := 1, held := [(1, some ⟨0, "a"⟩)] }
    let events : List (Event String) :=
      [.ask .tryAcquire, .takeHandle 0, .ask .tryAcquire, .takeHandle 1, .ask (.arrive ⟨7, false⟩),
        .drop 0, .putBack 0]
    (ofHandles ["a", "b"]).run events = some pool ∧
      pool.everywhere.Perm (numbered ["a", "b"]) ∧ pool.claims ≤ pool.idle.length ∧
      pool.permits.step .tryAcquire = some (.refused, pool.permits) ∧
      pool.permits.permits = 0 := by
  intro pool events
  have hrun : (ofHandles ["a", "b"]).run events = some pool := by decide
  have hrefused : pool.permits.step .tryAcquire = some (.refused, pool.permits) := by decide
  obtain ⟨⟨-, -, hcontents⟩, ⟨-, hclaims, -⟩, hpermits, -⟩ := handles_kept _ hrun
  exact ⟨hrun, hcontents (by decide), hclaims, hrefused,
    hpermits _ _ _ hrefused nofun (by decide)⟩

end HandlePool
end SiteServer
