import Mathlib.Data.List.Induction
import SiteServer.Proofs.Server.Books
import SiteServer.Proofs.Server.Retention

/-!
# Idle connections

The deadline of a connection is kept apart from the connection, in a list that is sorted, and
a tick looks at nothing else.  Along a run with a clock that does not go back it is always the
last activity on the connection and the time it may be idle (`Timely`): an entry is new only
if there was activity, and then the clock's reading is the latest.

So a tick ends those connections that were idle for too long, and no others (`tick_ends_idle`).
-/

namespace SiteServer
namespace Server
namespace EventLoop

variable {r r' r₀ : EventLoop} {key now : Nat} {config : Config} {events : List Event}
  {g g' : Agenda DeadlineId Ticket}

/-! ## The clock along a run -/

/-- The readings of the clock along a run, those that were looked at and maybe more. -/
def readings (events : List Event) : List Nat := events.filterMap Event.time?

theorem clock_concat {e : Event} (h : (readings (events ++ [e])).Pairwise (· ≤ ·)) :
    (readings events).Pairwise (· ≤ ·) ∧
      ∀ now, e.time? = some now → ∀ time ∈ readings events, time ≤ now := by
  rw [readings, List.filterMap_append, List.pairwise_append] at h
  obtain ⟨hearlier, -, hlatest⟩ := h
  refine ⟨hearlier, fun now htime time hmem => ?_⟩
  exact hlatest time hmem now (List.mem_filterMap.mpr ⟨e, List.mem_singleton_self e, htime⟩)

theorem activity_concat {e : Event} (hrun : r₀.run events = some r) (hstep : r.step e = some r')
    (id : Nat) : r₀.activity id (events ++ [e])
      = r₀.activity id events ++ if r.isActive e id then e.time?.toList else [] := by
  induction events generalizing r₀ with
  | nil =>
    obtain rfl := Option.some.inj hrun
    simp only [activity, List.nil_append, hstep, List.append_nil]
  | cons first events ih =>
    obtain ⟨r₁, hfirst, hrun⟩ := Option.bind_eq_some_iff.mp hrun
    simp only [List.cons_append, activity, hfirst, ih hrun, List.append_assoc]

/-- Activity is at times that the clock was read. -/
theorem activity_subset (r₀ : EventLoop) (id : Nat) (events : List Event) :
    r₀.activity id events ⊆ readings events := by
  induction events generalizing r₀ with
  | nil => exact List.Subset.refl _
  | cons e events ih =>
    have hlater : readings events ⊆ readings (e :: events) :=
      (List.sublist_cons_self e events).filterMap _ |>.subset
    rw [activity]
    cases hstep : r₀.step e with
    | none => exact List.nil_subset _
    | some r₁ =>
      refine List.append_subset.mpr ⟨fun time htime => ?_, fun _ htime => hlater (ih r₁ htime)⟩
      split at htime
      case isTrue => exact List.mem_filterMap.mpr ⟨e, List.mem_cons_self, by simpa using htime⟩
      case isFalse => cases htime

theorem max?_concat {times : List Nat} (h : ∀ time ∈ times, time ≤ now) :
    (times ++ [now]).max? = some now := by
  rw [List.max?_eq_some_iff]
  refine ⟨List.mem_append_right _ (List.mem_singleton_self now), fun time htime => ?_⟩
  rcases List.mem_append.mp htime with htime | htime
  · exact h time htime
  · exact Nat.le_of_eq (List.mem_singleton.mp htime)

/-! ## Deadlines and activity -/

/-- The clock is read when there is activity. -/
theorem exists_time_of_isActive {e : Event} {id : Nat} (h : r.isActive e id = true) :
    ∃ now, e.time? = some now := by
  cases e with
  | heed now | accept now | tick now => exact ⟨now, rfl⟩
  | process worker handle =>
    have hquiet : r.isActive (.process worker handle) id = false := by
      refine activeIn_of_not (fun call hcall => ?_) id
      obtain ⟨session, hkind⟩ := exists_session_of_mem_calls hcall
      rw [Http.Call.isActivity, hkind]
    rw [hquiet] at h
    cases h
  | arrive | expect | refuse | poll | offer | hear | post | take | test | pop | send => cases h

/-- Whoever has a slot after a step had it before, or was accepted in the step. -/
theorem slot_of_step (hr : r.Disciplined none) {e : Event} (hstep : r.step e = some r') {s' : Slot}
    (hs' : r'.slots.get? key = some s') :
    (∃ s, r.slots.get? key = some s ∧ s.id = s'.id) ∨ r.isActive e s'.id = true := by
  rcases retains_step hstep with hretains | ⟨batch, rfl⟩ | ⟨now, rfl⟩ | ⟨now, peer, stream, rfl⟩
  · exact Or.inl (hretains.slot hs')
  · simp only [step, Option.ite_none_right_eq_some, Option.some.injEq] at hstep
    obtain ⟨-, rfl⟩ := hstep
    exact Or.inl ⟨s', hs', rfl⟩
  · simp only [step] at hstep
    split at hstep
    case h_1 => cases hstep
    case h_2 n batch _ => exact Or.inl ((retains_heed hstep).slot hs')
  · rcases accept_cases hstep with ⟨-, rfl⟩ | ⟨deadline, deadlines, -, -, rfl⟩
    · exact Or.inl ⟨s', hs', rfl⟩
    · rcases (KeyTable.get?_insert_eq_some hr.sound).mp hs' with ⟨-, rfl⟩ | ⟨-, hs'⟩
      · refine Or.inr ?_
        rw [isActive_accept hstep (by simp)]
        exact decide_eq_true rfl
      · exact Or.inl ⟨s', hs', rfl⟩

/-- The connection of every slot was active at some time, and its deadline counts from the last
time it was. -/
def Timely (config : Config) (r₀ : EventLoop) (events : List Event) (g : Agenda DeadlineId Ticket)
    (r : EventLoop) : Prop :=
  ∀ key s, r.slots.get? key = some s → ∃ last, (r₀.activity s.id events).max? = some last ∧
    ∀ a ∈ g, a.payload = ⟨key, s.id⟩ → a.deadline = last + config.clock.idleUnit * idleLimit

/-- A step keeps a server timely, unless the clock goes back. -/
theorem Timely.step {e : Event} (h : Timely config r₀ events g r)
    (hbalanced : r.Balanced config [] g) (hr : r.Disciplined none)
    (hrun : r₀.run events = some r) (hstep : r.step e = some r')
    (hclock : ∀ now, e.time? = some now → ∀ time ∈ readings events, time ≤ now)
    (hentered : Entered r.window e.time? (r.calls e) g g') :
    Timely config r₀ (events ++ [e]) g' r' := by
  have hwindow : r.window = config.clock.idleUnit * idleLimit := by
    rw [window, hbalanced.config_eq]
  intro key s' hs'
  rw [activity_concat hrun hstep]
  cases hactive : r.isActive e s'.id with
  | true =>
    -- what was entered counts from the clock's reading, and that is the latest
    obtain ⟨now, htime⟩ := exists_time_of_isActive hactive
    rw [if_pos rfl, htime]
    refine ⟨now, max?_concat fun time hmem => ?_, fun a ha hpayload => ?_⟩
    · exact hclock now htime time (activity_subset r₀ _ _ hmem)
    · obtain ⟨_, heq, hdeadline⟩ := hentered.renewed ha (by rw [hpayload]; exact hactive)
      obtain rfl := Option.some.inj (htime.symm.trans heq)
      rw [hdeadline, hwindow]
  | false =>
    rcases slot_of_step hr hstep hs' with ⟨s, hs, hid⟩ | hnew
    · obtain ⟨last, hmax, hdeadline⟩ := h key s hs
      rw [if_neg Bool.false_ne_true, List.append_nil, ← hid]
      rw [← hid] at hactive
      exact ⟨last, hmax, fun a ha hpayload =>
        hdeadline a (hentered.kept ha (by rw [hpayload]; exact hactive)) hpayload⟩
    · rw [hactive] at hnew
      cases hnew

/-- A server is timely after every run in which the clock does not go back. -/
theorem timely_of_run {service : Http.Service} {credentials : Store.Credentials}
    {storage : Store.Storage} {handles : List Store.Backend}
    (hstart : start config service credentials storage handles = .ok r₀)
    (hrun : r₀.run events = some r) (hclock : (readings events).Pairwise (· ≤ ·)) :
    r.Disciplined none ∧ ∃ g, r.Balanced config [] g ∧ Timely config r₀ events g r := by
  induction events using List.reverseRecOn generalizing r with
  | nil =>
    obtain rfl := Option.some.inj hrun
    have hbalanced := balanced_start hstart
    refine ⟨disciplined_start hstart, [], hbalanced, fun key s hs => ?_⟩
    obtain ⟨pool, -, rfl⟩ := start_cases hstart
    cases hs
  | append_singleton events e ih =>
    obtain ⟨r₁, hfirst, hstep⟩ := run_concat_eq_some hrun
    obtain ⟨hearlier, hlatest⟩ := clock_concat hclock
    obtain ⟨hr, g, hbalanced, htimely⟩ := ih hfirst hearlier
    obtain ⟨g', hbalanced', hentered⟩ := balanced_step hbalanced hr hstep
    exact ⟨disciplined_step hr hstep, g', hbalanced',
      htimely.step hbalanced hr hfirst hstep hlatest hentered⟩

/-! ## Ticks -/

/-- A connection with a deadline is due exactly if it was last active so long ago. -/
theorem Timely.mem_due (h : Timely config r₀ events g r) (hbalanced : r.Balanced config [] g)
    {s : Slot} (hs : r.slots.get? key = some s) {last : Nat}
    (hlast : (r₀.activity s.id events).max? = some last) {id : DeadlineId}
    (hid : s.deadline = some id) (now : Nat) :
    (⟨key, s.id⟩ : Ticket) ∈ (g.due now).map (·.payload) ↔
      last + config.clock.idleUnit * idleLimit ≤ now := by
  obtain ⟨last', hmax, hdeadline⟩ := h key s hs
  obtain rfl := Option.some.inj (hlast.symm.trans hmax)
  obtain ⟨a, ha, -, hpayload⟩ := (hbalanced.held hs hid).resolve_left List.not_mem_nil
  rw [← hdeadline a ha hpayload, List.mem_map]
  have hdue : ∀ b, b ∈ g.due now ↔ b ∈ g ∧ b.deadline ≤ now := fun _ =>
    hbalanced.represents.ascending.mem_due
  constructor
  · rintro ⟨b, hb, hpayload'⟩
    obtain ⟨hb, hpast⟩ := (hdue b).mp hb
    rwa [hbalanced.eq_of_key_eq ha hb (by rw [hpayload, hpayload'])]
  · exact fun hpast => ⟨a, (hdue a).mpr ⟨ha, hpast⟩, hpayload⟩

/-- A connection whose deadline has passed before is not due again. -/
theorem Balanced.not_mem_due (h : r.Balanced config [] g) {s : Slot}
    (hs : r.slots.get? key = some s) (hnone : s.deadline = none) :
    (⟨key, s.id⟩ : Ticket) ∉ (g.due now).map (·.payload) := by
  intro hmem
  obtain ⟨a, ha, hpayload⟩ := List.mem_map.mp hmem
  have hget : r.slots.get? a.payload.key = some s := by rw [hpayload, hs]
  have hhandle := hnone.symm.trans (h.of_named (List.takeWhile_subset _ ha) hget).2.2
  cases hhandle

/-- **A tick ends what was idle for too long, and nothing else.**  Along a run with a clock that
does not go back every connection that is open has a last activity.  A tick succeeds.  If the
connection is not condemned already and was idle for three units, the tick closes it for that,
or condemns it if it is away; otherwise the connection keeps its slot, and what is away keeps
the reason for which it is condemned, if any.  Every connection that is at home after the tick
has a deadline that is yet to come. -/
theorem tick_ends_idle {service : Http.Service} {credentials : Store.Credentials}
    {storage : Store.Storage} {handles : List Store.Backend}
    (hstart : start config service credentials storage handles = .ok r₀)
    (hrun : r₀.run events = some r) (hclock : (readings events ++ [now]).Pairwise (· ≤ ·)) :
    ∃ r', ∃ ended : List Nat, r.step (.tick now) = some r' ∧
      r'.closed = ended.map (·, .idleTimeout) ++ r.closed ∧
      (∀ id ∈ ended, ∃ key s, r.slots.get? key = some s ∧ s.id = id) ∧
      (∀ key, r.slots.get? key = none → r'.slots.get? key = none) ∧
      (∀ key s, r.slots.get? key = some s →
        ∃ last, (r₀.activity s.id events).max? = some last ∧
          (s.isAway = false →
            (s.id ∈ ended ↔ s.condemned = none ∧ last + 3 * config.clock.idleUnit ≤ now) ∧
            r'.slots.get? key
              = if s.condemned = none ∧ last + 3 * config.clock.idleUnit ≤ now then none
                else some s) ∧
          (s.isAway = true → s.id ∉ ended ∧ ∃ deadline,
            r'.slots.get? key = some { s with
              deadline
              condemned := if s.condemned = none ∧ last + 3 * config.clock.idleUnit ≤ now
                then some .idleTimeout else s.condemned })) ∧
      ∀ key s, r'.slots.get? key = some s → s.isAway = false →
        ∃ id deadline, s.deadline = some id ∧ r'.deadlines.deadline? id = some deadline ∧
          now < deadline := by
  obtain ⟨hr, g, hbalanced, htimely⟩ := timely_of_run hstart hrun (List.pairwise_append.mp hclock).1
  obtain ⟨r', htick, hbalanced', hended⟩ := hbalanced.tick now
  obtain ⟨ended, hclosed, hmem⟩ := hended.closed
  refine ⟨r', ended, htick, hclosed, fun id hid => ?_, fun key hnone => ?_, fun key s hs => ?_,
    fun key s hs haway => ?_⟩
  · obtain ⟨key, s, hs, hsid, -⟩ := (hmem id).mp hid
    exact ⟨key, s, hs, hsid⟩
  · rw [hended.slot, hnone, Option.bind_none]
  · obtain ⟨last, hlast, -⟩ := htimely key s hs
    have hleft := hended.slot key
    rw [hs, Option.bind_some] at hleft
    have hwindow : config.clock.idleUnit * idleLimit = 3 * config.clock.idleUnit :=
      Nat.mul_comm _ _
    -- the slot of a connection that was ended is the only one it has
    have hself : s.id ∈ ended ↔
        s.isAway = false ∧ (⟨key, s.id⟩ : Ticket) ∈ (g.due now).map (·.payload) := by
      rw [hmem]
      constructor
      · rintro ⟨key', s', hs', hid, haway, hdue⟩
        obtain rfl := hr.distinct hs' hs hid
        obtain rfl := Option.some.inj (hs'.symm.trans hs)
        exact ⟨haway, hdue⟩
      · rintro ⟨haway, hdue⟩
        exact ⟨key, s, hs, rfl, haway, hdue⟩
    refine ⟨last, hlast, fun haway => ?_, fun haway => ?_⟩
    · have hspared := hbalanced.spared hs haway
      obtain ⟨id, hid⟩ := hbalanced.exists_deadline hs hspared
      have hdue := htimely.mem_due hbalanced hs hlast hid now
      rw [hwindow] at hdue
      simp only [hself, hleft, hdue, Slot.expire, haway, hspared, true_and, Bool.false_eq_true,
        if_false, and_self]
    · refine ⟨fun hin => ?_, ?_⟩
      · have hthere := (hself.mp hin).1.symm.trans haway
        cases hthere
      · rw [hleft]
        cases hid : s.deadline with
        | none =>
          -- its deadline has passed before, and it is condemned
          obtain ⟨reason, hreason⟩ := Option.isSome_iff_exists.mp (hbalanced.undated hs hid)
          refine ⟨none, ?_⟩
          rw [if_neg (hbalanced.not_mem_due hs hid), if_neg (by simp [hreason]), ← hid]
        | some id =>
          have hdue := htimely.mem_due hbalanced hs hlast hid now
          rw [hwindow] at hdue
          simp only [hdue, Slot.expire, haway, if_true]
          by_cases hpast : last + 3 * config.clock.idleUnit ≤ now
          · refine ⟨none, ?_⟩
            cases hcondemned : s.condemned <;> simp [hpast]
          · refine ⟨some id, ?_⟩
            simp [hpast, ← hid, ← haway]
  · obtain ⟨id, hid⟩ := hbalanced'.exists_deadline hs (hbalanced'.spared hs haway)
    obtain ⟨a, ha, rfl, -⟩ := (hbalanced'.held hs hid).resolve_left List.not_mem_nil
    exact ⟨a.id, a.deadline, hid, hbalanced'.represents.deadline?_of_mem ha,
      (hbalanced.represents.ascending.mem_afterTick.mp ha).2⟩

/-- A client that is accepted and then does nothing is closed when three units have passed. -/
theorem tick_ends_idle_of_first_client :
    ∃ r', visited.step (.tick 15) = some r' ∧ (0, .idleTimeout) ∈ r'.closed ∧
      r'.slots.get? 0 = none := by
  have hstart : start {} bare.service {} {} [.memory] = .ok bare := rfl
  have hvisited : bare.run
      [.accept 0 ⟨.v4 [127, 0, 0, 1], 4000, 0⟩ { arriving := [.data [71]] },
        .poll [{ key := 0, source := 0, readable := true }]] = some visited := rfl
  have hclock : [0, 15].Pairwise (· ≤ ·) := by decide
  obtain ⟨r', ended, htick, hclosed, -, -, hslots, -⟩ := tick_ends_idle hstart hvisited hclock
  obtain ⟨last, hlast, hhome, -⟩ := hslots 0 (.opened 0 ⟨0, 0⟩) rfl
  obtain rfl : 0 = last := Option.some.inj hlast
  obtain ⟨hended, hleft⟩ := hhome rfl
  refine ⟨r', htick, ?_, hleft⟩
  rw [hclosed]
  exact List.mem_append_left _ (List.mem_map.mpr ⟨0, hended.mpr ⟨rfl, Nat.le_refl 15⟩, rfl⟩)

end EventLoop
end Server
end SiteServer
