import Mathlib.Data.List.Dedup
import SiteServer.Proofs.Server.Condemned

/-!
# The backlog

A connection from which something was read is submitted to the workers, and waits in the backlog
while there is no room in the queue.  The loop goes through the backlog until one connection has to
wait, so what is behind that one is not looked at.

* `InTurn`: along a run with a clock that does not go back, the backlog is in the order in which
  its connections were submitted, and the idle time of each is over no sooner than that of those in
  front of it.  Being submitted is activity, and there is none while a connection waits.
* `Dropping`: hence a tick condemns a beginning of the backlog, and from then on the connections
  that were due are behind condemned ones alone, until they are closed.
-/

namespace SiteServer

/-- Whether something is read in a call, so that the connection is submitted to the workers. -/
def Http.Call.isSubmission (c : Http.Call) : Bool :=
  match c.kind, c.before.read.1 with
  | .read, .ok (.data n) => 0 < n
  | _, _ => false

theorem Http.Call.isActivity_of_isSubmission {c : Http.Call} (h : c.isSubmission = true) :
    c.isActivity = true := by
  unfold isSubmission at h
  split at h
  case h_1 hkind hread => simpa only [isActivity, hkind, hread] using h
  case h_2 => cases h

/-- What is added at the end moves only its own members to the end. -/
theorem append_dedup_sublist {xs l new : List Nat} (h : xs.Sublist l.dedup)
    (hnew : ∀ a ∈ xs, a ∉ new) : (xs ++ new.dedup).Sublist (l ++ new).dedup := by
  induction l generalizing xs with
  | nil =>
    rw [List.dedup_nil, List.sublist_nil] at h
    subst h
    exact List.Sublist.refl _
  | cons a l ih =>
    by_cases ha : a ∈ l
    · rw [List.dedup_cons_of_mem ha] at h
      rw [List.cons_append, List.dedup_cons_of_mem (List.mem_append_left _ ha)]
      exact ih h hnew
    · rw [List.dedup_cons_of_notMem ha] at h
      cases h with
      | cons _ h =>
        refine (ih h hnew).trans ?_
        rw [List.cons_append, List.dedup_cons]
        split
        · exact List.Sublist.refl _
        · exact List.sublist_cons_self _ _
      | cons_cons _ h =>
        obtain ⟨hfirst, hrest⟩ := List.forall_mem_cons.mp hnew
        have hall : a ∉ l ++ new := fun hmem => (List.mem_append.mp hmem).elim ha hfirst
        rw [List.cons_append, List.cons_append, List.dedup_cons_of_notMem hall]
        exact (ih h hrest).cons_cons a

/-- In ascending order what is small comes first. -/
theorem mem_takeWhile_of_pairwise {α : Type} {f : α → Nat} {l : List α} {a : α} {bound : Nat}
    (h : (l.map f).Pairwise (· ≤ ·)) (hmem : a ∈ l) (ha : f a ≤ bound) :
    a ∈ l.takeWhile (f · ≤ bound) := by
  induction l with
  | nil => cases hmem
  | cons b l ih =>
    rw [List.map_cons, List.pairwise_cons] at h
    have hb : f b ≤ bound := by
      rcases List.mem_cons.mp hmem with rfl | hmem
      · exact ha
      · exact Nat.le_trans (h.1 _ (List.mem_map_of_mem hmem)) ha
    rw [List.takeWhile_cons_of_pos (by simpa using hb)]
    exact List.mem_cons.mpr ((List.mem_cons.mp hmem).imp_right (ih h.2))

namespace Server
namespace EventLoop

open Http (Call)

variable {r r' r₀ r₁ : EventLoop} {e : Event} {t : Ticket} {key now : Nat} {config : Config}
  {events : List Event} {g : Agenda DeadlineId Ticket}

/-! ## What was submitted -/

/-- The connections, by their numbers, that are submitted to the workers in some calls. -/
def submittedIn (calls : List Call) : List Nat := (calls.filter Call.isSubmission).map Call.number

/-- The connections that were submitted along a run, one after another. -/
def submissions (r : EventLoop) (events : List Event) : List Nat := submittedIn (r.history events)

/-- When the idle time of a connection is over, by the last activity on it along a run. -/
def lapse (r : EventLoop) (id : Nat) (events : List Event) : Nat :=
  (r.activity id events).max?.getD 0 + r.window

theorem submissions_concat (hrun : r₀.run events = some r) (hstep : r.step e = some r') :
    r₀.submissions (events ++ [e]) = r₀.submissions events ++ submittedIn (r.calls e) := by
  induction events generalizing r₀ with
  | nil =>
    obtain rfl := Option.some.inj hrun
    simp only [submissions, history, List.nil_append, hstep, List.append_nil]
    rfl
  | cons first events ih =>
    obtain ⟨r₁, hfirst, hrun⟩ := Option.bind_eq_some_iff.mp hrun
    have ih := ih hrun
    simp only [submissions, submittedIn, List.cons_append, history, hfirst, List.filter_append,
      List.map_append] at ih ⊢
    rw [ih, List.append_assoc]

/-- What is on its way is not submitted, and not active. -/
theorem Disciplined.quiet_of_transit (h : r.Disciplined none) (ht : t ∈ r.transit) (e : Event) :
    t.id ∉ submittedIn (r.calls e) ∧ r.isActive e t.id = false := by
  obtain ⟨-, s, hs⟩ := h.owned (mem_transit_iff.mp ht)
  obtain ⟨hget, hid⟩ := slot?_eq_some.mp hs
  have hknown : t.id < r.connections.length := hid ▸ h.known hget
  have hmute : r.IsMute t.id := fun _ _ hs' hid' => h.awaits_of_transit ht hs' hid'
  have hprocess : ∀ call ∈ callsOn t.id (r.calls e), call.isActivity = false := by
    intro call hcall
    obtain ⟨session, hkind⟩ := hmute.calls hknown hcall
    rw [Call.isActivity, hkind]
  refine ⟨fun hmem => ?_, List.any_eq_false.mpr fun call hcall => by simp [hprocess call hcall]⟩
  obtain ⟨call, hcall, hnumber⟩ := List.mem_map.mp hmem
  obtain ⟨hcall, hsubmission⟩ := List.mem_filter.mp hcall
  have hactive := Call.isActivity_of_isSubmission hsubmission
  rw [hprocess call (List.mem_filter.mpr ⟨hcall, by simpa using hnumber⟩)] at hactive
  cases hactive

/-! ## What a step makes of the backlog -/

theorem backlog_close {reason : ClosingReason} (h : r.close key reason = some r') :
    r'.backlog = r.backlog := by
  rcases close_cases h with ⟨-, rfl⟩ | ⟨slot, deadlines, -, -, rfl⟩ <;> rfl

theorem backlog_putOff (h : r.putOff now key = some r') : r'.backlog = r.backlog := by
  rcases putOff_cases h with ⟨-, rfl⟩ | ⟨_, _, _, -, -, rfl⟩ <;> rfl

theorem backlog_await {readiness : Readiness} (h : r.await key readiness = some r') :
    r'.backlog = r.backlog := by
  rcases await_cases h with ⟨-, rfl⟩ | ⟨slot, -, ⟨-, rfl⟩ | ⟨-, hclose⟩⟩
  · rfl
  · rfl
  · exact (backlog_close hclose).trans rfl

theorem backlog_tick (h : r.tick now = some r') : r'.backlog = r.backlog := by
  refine tick_induction (P := fun s => s.backlog = r.backlog) h (fun _ => rfl)
    fun s u s' hs hend => ?_
  rcases endOverdue_cases hend with ⟨-, rfl⟩ | ⟨slot, -, ⟨-, rfl⟩ | ⟨-, hclose⟩⟩
  · exact hs
  · exact hs
  · exact (backlog_close hclose).trans hs

theorem backlog_hear (h : r.hearFirst = some r') : r'.backlog = r.backlog := by
  rcases hearFirst_cases h with ⟨-, rfl⟩ | ⟨u, next, messages, -, hcases⟩
  · rfl
  rcases hcases with ⟨-, rfl⟩ | ⟨slot, -, ⟨_, -, hclose⟩ | ⟨_, -, -, hawait⟩⟩
  · rfl
  · exact (backlog_close hclose).trans rfl
  · exact (backlog_await hawait).trans rfl

/-- Heeding a notice leaves the backlog as it is, or puts at its end the connection that it
submits. -/
theorem backlog_heed {n : Notice} (h : r.heed now n = some r') :
    r'.backlog = r.backlog ∨
      ∃ t, r'.backlog = r.backlog ++ [t] ∧ submittedIn (r.noticeCalls n) = [t.id] := by
  rcases heed_cases h with ⟨-, rfl⟩ | ⟨slot, hslot, hcases⟩
  · exact Or.inl rfl
  rcases hcases with ⟨-, -, rfl⟩ | ⟨-, -, hclose⟩ | ⟨hhang, hawaits, hready, hread⟩ |
    ⟨-, -, -, hwrite⟩ | ⟨-, -, -, rfl⟩
  · exact Or.inl rfl
  · exact Or.inl (backlog_close hclose)
  · obtain ⟨c, hc, hcases⟩ := receive_cases hread
    rcases hcases with ⟨-, rfl⟩ | ⟨m, r₁, hdata, hput, rfl⟩ | ⟨-, hclose⟩ | ⟨-, hclose⟩ |
      ⟨_, -, hclose⟩
    · exact Or.inl rfl
    · have hslot₁ : r₁.slots.get? n.key = some slot := by
        rcases putOff_cases hput with ⟨-, rfl⟩ | ⟨_, _, _, -, -, rfl⟩ <;> exact hslot
      have hbacklog : r₁.backlog = r.backlog := (backlog_putOff hput).trans rfl
      rcases handOver_cases hslot₁ with ⟨pool, -, heq⟩ | ⟨-, heq⟩
      · rw [heq]
        exact Or.inl hbacklog
      · refine Or.inr ⟨⟨n.key, slot.id⟩, by rw [heq, hbacklog], ?_⟩
        simp [submittedIn, noticeCalls, hslot, hhang, hawaits, hc, hready, Call.isSubmission, hdata]
    all_goals exact Or.inl ((backlog_close hclose).trans rfl)
  · obtain ⟨c, -, hcases⟩ := transmit_cases hwrite
    rcases hcases with ⟨_, r₁, -, -, hput, hawait⟩ | ⟨_, -, -, hclose⟩ | ⟨_, -, hput⟩ |
      ⟨-, rfl⟩ | ⟨-, hclose⟩
    · exact Or.inl ((backlog_await hawait).trans ((backlog_putOff hput).trans rfl))
    · exact Or.inl ((backlog_close hclose).trans rfl)
    · exact Or.inl ((backlog_putOff hput).trans rfl)
    · exact Or.inl rfl
    · exact Or.inl ((backlog_close hclose).trans rfl)
  · exact Or.inl rfl

/-- The backlog stays, loses the first connection when that is looked at, or gets a new last one,
which is submitted. -/
theorem backlog_of_step (hstep : r.step e = some r') :
    r'.backlog = r.backlog ∨ (e = .offer ∧ ∃ t, r.backlog = t :: r'.backlog) ∨
      ∃ now t, e = .heed now ∧ r'.backlog = r.backlog ++ [t] ∧
        submittedIn (r.calls e) = [t.id] := by
  have hstream : ∀ id f, (r.updateStream id f).backlog = r.backlog := by
    intro id f
    unfold updateStream
    split <;> rfl
  cases e with
  | arrive id deliveries =>
    obtain rfl := Option.some.inj hstep
    exact Or.inl (hstream id _)
  | expect id acceptances =>
    obtain rfl := Option.some.inj hstep
    exact Or.inl (hstream id _)
  | refuse ids =>
    obtain rfl := Option.some.inj hstep
    exact Or.inl rfl
  | poll batch =>
    obtain ⟨-, hstep⟩ := Option.ite_none_right_eq_some.mp hstep
    obtain rfl := Option.some.inj hstep
    exact Or.inl rfl
  | heed now =>
    simp only [step] at hstep
    split at hstep
    case h_1 => cases hstep
    case h_2 n batch hbatch =>
      rw [calls_heed hbatch]
      rcases backlog_heed hstep with hkept | ⟨t, hbacklog, hsubmitted⟩
      · exact Or.inl hkept
      · exact Or.inr (Or.inr ⟨now, t, rfl, hbacklog, hsubmitted⟩)
  | accept now peer stream =>
    rcases accept_cases hstep with ⟨-, rfl⟩ | ⟨_, _, -, -, rfl⟩ <;> exact Or.inl rfl
  | offer =>
    obtain ⟨⟨s, more⟩, hoffer, rfl⟩ := Option.map_eq_some_iff.mp hstep
    rcases offerFirst_cases hoffer with ⟨-, rfl, -⟩ | ⟨t, backlog, hbacklog, hcases⟩
    · exact Or.inl rfl
    rcases hcases with ⟨-, rfl, -⟩ | ⟨_, _, -, -, hclose, -⟩ | ⟨_, _, -, -, -, rfl, -⟩ |
      ⟨_, -, -, -, rfl, -⟩
    · exact Or.inr (Or.inl ⟨rfl, t, hbacklog⟩)
    · exact Or.inr (Or.inl ⟨rfl, t, by rw [backlog_close hclose]; exact hbacklog⟩)
    · exact Or.inr (Or.inl ⟨rfl, t, hbacklog⟩)
    · exact Or.inl rfl
  | hear => exact Or.inl (backlog_hear hstep)
  | tick now => exact Or.inl (backlog_tick hstep)
  | post | take | test | pop =>
    obtain ⟨pool, -, rfl⟩ := Option.map_eq_some_iff.mp hstep
    exact Or.inl rfl
  | process worker handle =>
    obtain ⟨backend, t, c, -, -, -, rfl⟩ := process_cases hstep
    exact Or.inl rfl
  | send worker =>
    obtain ⟨t, next, -, rfl⟩ := send_cases hstep
    exact Or.inl rfl

/-! ## The order of the backlog -/

/-- The backlog after a run is in the order in which its connections were last submitted, and
their idle times are over in that order. -/
structure InTurn (r₀ : EventLoop) (events : List Event) (r : EventLoop) : Prop where
  /-- `List.dedup` keeps of each connection the place where it was submitted last. -/
  order : (r.backlog.map (·.id)).Sublist (r₀.submissions events).dedup
  lapses : (r.backlog.map fun t => r₀.lapse t.id events).Pairwise (· ≤ ·)

/-- With activity now the idle time is over when the window has passed. -/
theorem lapse_of_isActive (hrun : r₀.run events = some r) (hstep : r.step e = some r')
    (htime : e.time? = some now) (hclock : ∀ time ∈ readings events, time ≤ now) {id : Nat}
    (hactive : r.isActive e id = true) : r₀.lapse id (events ++ [e]) = now + r₀.window := by
  have hmax : (r₀.activity id events ++ [now]).max? = some now :=
    max?_concat fun time hmem => hclock time (activity_subset r₀ _ _ hmem)
  rw [lapse, activity_concat hrun hstep, if_pos hactive, htime, Option.toList_some, hmax,
    Option.getD_some]

theorem lapse_of_not_isActive (hrun : r₀.run events = some r) (hstep : r.step e = some r')
    {id : Nat} (hquiet : r.isActive e id = false) :
    r₀.lapse id (events ++ [e]) = r₀.lapse id events := by
  rw [lapse, activity_concat hrun hstep, if_neg (by simp [hquiet]), List.append_nil, lapse]

theorem lapse_le (hclock : ∀ time ∈ readings events, time ≤ now) (id : Nat) :
    r₀.lapse id events ≤ now + r₀.window := by
  refine Nat.add_le_add_right ?_ _
  cases hmax : (r₀.activity id events).max? with
  | none => exact Nat.zero_le now
  | some last => exact hclock last (activity_subset r₀ _ _ (List.max?_eq_some_iff.mp hmax).1)

/-- A step keeps the backlog in turn, unless the clock goes back. -/
theorem InTurn.step (h : InTurn r₀ events r) (hr : r.Disciplined none)
    (hrun : r₀.run events = some r) (hstep : r.step e = some r')
    (hclock : ∀ now, e.time? = some now → ∀ time ∈ readings events, time ≤ now) :
    InTurn r₀ (events ++ [e]) r' := by
  have hwaiting : ∀ t ∈ r.backlog, t.id ∉ submittedIn (r.calls e) ∧ r.isActive e t.id = false :=
    fun t ht => hr.quiet_of_transit (List.mem_append_left _ ht) e
  -- nothing changes about those that wait already
  have horder : (r.backlog.map (·.id) ++ (submittedIn (r.calls e)).dedup).Sublist
      (r₀.submissions (events ++ [e])).dedup := by
    rw [submissions_concat hrun hstep]
    refine append_dedup_sublist h.order fun id hid => ?_
    obtain ⟨t, ht, rfl⟩ := List.mem_map.mp hid
    exact (hwaiting t ht).1
  have hlapses : (r.backlog.map fun t => r₀.lapse t.id (events ++ [e])).Pairwise (· ≤ ·) := by
    rw [List.map_congr_left fun t ht => lapse_of_not_isActive hrun hstep (hwaiting t ht).2]
    exact h.lapses
  have hsame : (r.backlog.map (·.id)).Sublist (r₀.submissions (events ++ [e])).dedup :=
    (List.sublist_append_left _ _).trans horder
  rcases backlog_of_step hstep with hkept | ⟨-, t, hfirst⟩ | ⟨now, t, rfl, hlast, hsubmitted⟩
  · exact ⟨hkept ▸ hsame, hkept ▸ hlapses⟩
  · rw [hfirst, List.map_cons] at hsame hlapses
    exact ⟨(List.sublist_cons_self _ _).trans hsame, (List.pairwise_cons.mp hlapses).2⟩
  · rw [hsubmitted, (List.nodup_singleton _).dedup] at horder
    have hactive : r.isActive (.heed now) t.id = true := by
      have hmem : t.id ∈ submittedIn (r.calls (.heed now)) := hsubmitted ▸ List.mem_singleton_self _
      obtain ⟨call, hcall, hnumber⟩ := List.mem_map.mp hmem
      obtain ⟨hcall, hsubmission⟩ := List.mem_filter.mp hcall
      exact List.any_eq_true.mpr ⟨call, List.mem_filter.mpr ⟨hcall, by simpa using hnumber⟩,
        Call.isActivity_of_isSubmission hsubmission⟩
    have hnow := hclock now rfl
    refine ⟨by rwa [hlast, List.map_append], ?_⟩
    rw [hlast, List.map_append, List.pairwise_append]
    refine ⟨hlapses, List.pairwise_singleton _ _, fun earlier hearlier later hlater => ?_⟩
    obtain ⟨u, hu, rfl⟩ := List.mem_map.mp hearlier
    rw [List.map_singleton, List.mem_singleton] at hlater
    rw [hlater, lapse_of_isActive hrun hstep rfl hnow hactive,
      lapse_of_not_isActive hrun hstep (hwaiting u hu).2]
    exact lapse_le hnow u.id

section Runs

variable {service : Http.Service} {credentials : Store.Credentials} {storage : Store.Storage}
  {handles : List Store.Backend}

/-- The backlog is in turn after every run in which the clock does not go back. -/
theorem inTurn_of_run (hstart : start config service credentials storage handles = .ok r₀)
    (hrun : r₀.run events = some r) (hclock : (readings events).Pairwise (· ≤ ·)) :
    InTurn r₀ events r := by
  induction events using List.reverseRecOn generalizing r with
  | nil =>
    obtain rfl := Option.some.inj hrun
    obtain ⟨pool, -, rfl⟩ := start_cases hstart
    exact ⟨List.nil_sublist _, List.Pairwise.nil⟩
  | append_singleton events e ih =>
    obtain ⟨r₁, hfirst, hstep⟩ := run_concat_eq_some hrun
    obtain ⟨hearlier, hlatest⟩ := clock_concat hclock
    have hr := disciplined_of_reachable hstart ⟨events, hfirst⟩
    exact (ih hfirst hearlier).step hr hfirst hstep hlatest

/-! ## What is due -/

/-- The idle time of a connection that has a slot is over when it was last active for so long, and
that is its deadline if it has one. -/
theorem Timely.lapse_eq {s : Slot} (h : Timely config r₀ events g r)
    (hbalanced : r.Balanced config [] g) (hconfig : r₀.config = config)
    (hs : r.slot? t = some s) :
    ∃ last, (r₀.activity t.id events).max? = some last ∧
      r₀.lapse t.id events = last + config.clock.idleUnit * idleLimit ∧
      ∀ id, s.deadline = some id → r.deadlines.deadline? id = some (r₀.lapse t.id events) := by
  obtain ⟨hget, hid⟩ := slot?_eq_some.mp hs
  obtain ⟨last, hmax, hdeadline⟩ := h t.key s hget
  have hlapse : r₀.lapse t.id events = last + config.clock.idleUnit * idleLimit := by
    rw [lapse, ← hid, hmax, Option.getD_some, window, hconfig]
  refine ⟨last, hid ▸ hmax, hlapse, fun id hsome => ?_⟩
  obtain ⟨a, ha, rfl, hpayload⟩ := (hbalanced.held hget hsome).resolve_left List.not_mem_nil
  rw [hbalanced.represents.deadline?_of_mem ha, hdeadline a ha hpayload, hlapse]

/-- A tick condemns what is on its way and was idle for too long, if it is not condemned already. -/
theorem condemned_of_tick {s : Slot} (hr : r.Disciplined none) (hbalanced : r.Balanced config [] g)
    (htimely : Timely config r₀ events g r) (hconfig : r₀.config = config) (ht : t ∈ r.transit)
    (hs : r.slot? t = some s) (hlapse : r₀.lapse t.id events ≤ now)
    (hstep : r.step (.tick now) = some r₁) :
    ∃ s', r₁.slot? t = some s' ∧ s'.condemned = some (s.condemned.getD .idleTimeout) := by
  obtain ⟨hget, hid⟩ := slot?_eq_some.mp hs
  obtain ⟨last, hmax, heq, -⟩ := htimely.lapse_eq hbalanced hconfig hs
  rw [heq] at hlapse
  obtain ⟨r₂, htick, -, hended⟩ := hbalanced.tick now
  obtain rfl := Option.some.inj (htick.symm.trans hstep)
  have hleft := hended.slot t.key
  rw [hget, Option.bind_some] at hleft
  cases hdeadline : s.deadline with
  | none =>
    obtain ⟨reason, hreason⟩ := Option.isSome_iff_exists.mp (hbalanced.undated hget hdeadline)
    rw [if_neg (hbalanced.not_mem_due hget hdeadline)] at hleft
    exact ⟨s, slot?_eq_some.mpr ⟨hleft, hid⟩, by rw [hreason, Option.getD_some]⟩
  | some handle =>
    have haway := hr.isAway_of_transit ht hs
    have hdue := (htimely.mem_due hbalanced hget (hid ▸ hmax) hdeadline now).mpr hlapse
    rw [if_pos hdue, Slot.expire, haway, if_pos rfl] at hleft
    refine ⟨_, slot?_eq_some.mpr ⟨hleft, hid⟩, ?_⟩
    cases s.condemned <;> rfl

/-- Of some connections each was closed, or waits behind condemned ones alone. -/
def Dropping (due : List Ticket) (r : EventLoop) : Prop :=
  ∃ front rest, r.backlog = front ++ rest ∧
    (∀ t ∈ front, ∃ s reason, r.slot? t = some s ∧ s.condemned = some reason) ∧
    ∀ t ∈ due, t ∈ front ∨ ∃ reason, (t.id, reason) ∈ r.closed

/-- What is due at a tick is a beginning of the backlog, and condemned by it. -/
theorem dropping_of_tick (hr : r.Disciplined none) (hbalanced : r.Balanced config [] g)
    (htimely : Timely config r₀ events g r) (hconfig : r₀.config = config)
    (hturn : InTurn r₀ events r) (hstep : r.step (.tick now) = some r₁) :
    Dropping (r.backlog.filter fun t => r₀.lapse t.id events ≤ now) r₁ := by
  refine ⟨r.backlog.takeWhile fun t => r₀.lapse t.id events ≤ now,
    r.backlog.dropWhile fun t => r₀.lapse t.id events ≤ now, ?_, fun t ht => ?_,
    fun t ht => Or.inl ?_⟩
  · rw [backlog_tick hstep]
    exact List.takeWhile_append_dropWhile.symm
  · have hmem : t ∈ r.transit := List.mem_append_left _ (List.takeWhile_subset _ ht)
    obtain ⟨-, s, hs⟩ := hr.owned (mem_transit_iff.mp hmem)
    obtain ⟨s', hs', hreason⟩ := condemned_of_tick hr hbalanced htimely hconfig hmem hs
      (by simpa using List.mem_takeWhile_imp ht) hstep
    exact ⟨s', _, hs', hreason⟩
  · obtain ⟨hmem, hpast⟩ := List.mem_filter.mp ht
    exact mem_takeWhile_of_pairwise hturn.lapses hmem (by simpa using hpast)

/-- A step goes on dropping: the first of the backlog is closed if it is condemned, and what comes
later waits behind the others. -/
theorem Dropping.step (hstart : start config service credentials storage handles = .ok r₀)
    (h : Reachable r₀ r) {due : List Ticket} (hdropping : Dropping due r)
    (hstep : r.step e = some r') : Dropping due r' := by
  obtain ⟨front, rest, hbacklog, hfront, hdue⟩ := hdropping
  have hr' := disciplined_of_reachable hstart (h.step hstep)
  have htallied' := tallied_of_reachable hstart (h.step hstep)
  have hclosed : ∀ t : Ticket, (∃ reason, (t.id, reason) ∈ r.closed) →
      ∃ reason, (t.id, reason) ∈ r'.closed := fun t hbefore =>
    hbefore.imp fun _ hreason => (closed_suffix (changes_step hstep)).subset hreason
  -- a condemned connection that still waits has its slot
  have hstill : ∀ t ∈ front, t ∈ r'.backlog →
      ∃ s reason, r'.slot? t = some s ∧ s.condemned = some reason := by
    intro t ht hmem
    obtain ⟨s, reason, hs, hreason⟩ := hfront t ht
    rcases kept_or_retrieved_of_step hstart h hs hreason hstep with
      ⟨s', hs', hreason'⟩ | ⟨-, hgone⟩
    · exact ⟨s', reason, hs', hreason'⟩
    · obtain ⟨-, s', hs'⟩ := hr'.owned (mem_transit_iff.mp (List.mem_append_left _ hmem))
      obtain ⟨hget', hid'⟩ := slot?_eq_some.mp hs'
      exact absurd hid' ((htallied'.closings_eq hgone).2 t.key s' hget')
  have hlonger : ∀ more, r'.backlog = r.backlog ++ more → Dropping due r' := by
    intro more hmore
    refine ⟨front, rest ++ more, by rw [hmore, hbacklog, List.append_assoc], fun t ht => ?_,
      fun t ht => (hdue t ht).imp_right (hclosed t)⟩
    refine hstill t ht ?_
    rw [hmore, hbacklog]
    exact List.mem_append_left _ (List.mem_append_left _ ht)
  rcases backlog_of_step hstep with hkept | ⟨rfl, u, hfirst⟩ | ⟨now, t, -, hlast, -⟩
  · exact hlonger [] (by rw [hkept, List.append_nil])
  · cases front with
    | nil =>
      refine ⟨[], r'.backlog, rfl, List.forall_mem_nil _, fun t ht => Or.inr (hclosed t ?_)⟩
      exact (hdue t ht).resolve_left List.not_mem_nil
    | cons u' front =>
      rw [hbacklog, List.cons_append, List.cons.injEq] at hfirst
      obtain ⟨rfl, hrest⟩ := hfirst
      obtain ⟨s, reason, hs, hreason⟩ := hfront u' List.mem_cons_self
      obtain ⟨-, g, hbalanced⟩ := balanced_of_reachable hstart h
      obtain ⟨r₂, hoffer, hgone⟩ := hbalanced.exists_closed hs hreason
        (Or.inl ⟨rfl, by rw [hbacklog]; rfl⟩)
      obtain rfl := Option.some.inj (hstep.symm.trans hoffer)
      refine ⟨front, rest, hrest.symm, fun t ht => ?_, fun t ht => ?_⟩
      · refine hstill t (List.mem_cons_of_mem _ ht) ?_
        rw [← hrest]
        exact List.mem_append_left _ ht
      · rcases hdue t ht with hmem | hbefore
        · rcases List.mem_cons.mp hmem with rfl | hmem
          · exact Or.inr ⟨reason, hgone⟩
          · exact Or.inl hmem
        · exact Or.inr (hclosed t hbefore)
  · exact hlonger [t] hlast

theorem Dropping.run (hstart : start config service credentials storage handles = .ok r₀)
    (h : Reachable r₀ r) {due : List Ticket} (hdropping : Dropping due r)
    (hrun : r.run events = some r') : Dropping due r' := by
  induction events generalizing r with
  | nil =>
    obtain rfl := Option.some.inj hrun
    exact hdropping
  | cons e events ih =>
    obtain ⟨r₁, hstep, hrun⟩ := Option.bind_eq_some_iff.mp hrun
    exact ih (h.step hstep) (hdropping.step hstart h hstep) hrun

/-- The loop stops going through the backlog: there is nothing left there, or the first has to
wait. -/
def Stops (r : EventLoop) : Prop := ∃ r', r.offerFirst = some (r', false)

/-- Where the loop stops nothing is left of what was due, as it does not stop before a connection
that is condemned. -/
theorem Dropping.closed_of_stops {due : List Ticket} (h : Dropping due r) (hstops : r.Stops) :
    ∀ t ∈ due, ∃ reason, (t.id, reason) ∈ r.closed := by
  obtain ⟨front, rest, hbacklog, hfront, hdue⟩ := h
  obtain ⟨r', hoffer⟩ := hstops
  cases front with
  | nil => exact fun t ht => (hdue t ht).resolve_left List.not_mem_nil
  | cons u front =>
    obtain ⟨s, reason, hs, hreason⟩ := hfront u List.mem_cons_self
    rcases offerFirst_cases hoffer with ⟨hnil, -, -⟩ | ⟨u', backlog, hcons, hcases⟩
    · rw [hbacklog] at hnil
      cases hnil
    rw [hbacklog, List.cons_append, List.cons.injEq] at hcons
    obtain ⟨rfl, -⟩ := hcons
    rcases hcases with ⟨-, -, hmore⟩ | ⟨_, _, -, -, -, hmore⟩ | ⟨_, _, -, -, -, -, hmore⟩ |
      ⟨s', hs', hnone, -⟩
    · cases hmore
    · cases hmore
    · cases hmore
    · obtain rfl := Option.some.inj (hs.symm.trans hs')
      rw [hreason] at hnone
      cases hnone

/-- Looking at the first connection of the backlog succeeds. -/
theorem Balanced.exists_offerFirst (h : r.Balanced config [] g) :
    ∃ r' more, r.offerFirst = some (r', more) := by
  unfold EventLoop.offerFirst
  cases r.backlog with
  | nil => exact ⟨_, _, rfl⟩
  | cons t backlog =>
    simp only
    cases r.slot? t with
    | none => exact ⟨_, _, rfl⟩
    | some s =>
      simp only
      cases s.condemned with
      | none =>
        simp only
        split <;> exact ⟨_, _, rfl⟩
      | some reason =>
        have hrest : Balanced config [] g { r with backlog } := h.congr rfl rfl rfl rfl
        obtain ⟨r', -, hclose, -, -⟩ := hrest.close t.key reason
        simp only [hclose, Option.map_some]
        exact ⟨_, _, rfl⟩

/-- As long as the loop does not stop there is one connection less. -/
theorem length_of_offerFirst (h : r.offerFirst = some (r', true)) :
    r.backlog.length = r'.backlog.length + 1 := by
  rcases offerFirst_cases h with ⟨-, -, hmore⟩ | ⟨t, backlog, hbacklog, hcases⟩
  · cases hmore
  rcases hcases with ⟨-, rfl, -⟩ | ⟨_, _, -, -, hclose, -⟩ | ⟨_, _, -, -, -, rfl, -⟩ |
    ⟨_, -, -, -, -, hmore⟩
  · rw [hbacklog, List.length_cons]
  · rw [hbacklog, backlog_close hclose, List.length_cons]
  · rw [hbacklog, List.length_cons]
  · cases hmore

theorem eq_of_offerFirst (h : r.offerFirst = some (r', false)) : r' = r := by
  rcases offerFirst_cases h with ⟨-, rfl, -⟩ | ⟨t, backlog, -, hcases⟩
  · rfl
  rcases hcases with ⟨-, -, hmore⟩ | ⟨_, _, -, -, -, hmore⟩ | ⟨_, _, -, -, -, -, hmore⟩ |
    ⟨_, -, -, -, heq, -⟩
  · cases hmore
  · cases hmore
  · cases hmore
  · exact heq

/-- Going through the backlog succeeds, is a run like any other, and goes on until the loop has
to stop. -/
theorem exists_offerTimes (hstart : start config service credentials storage handles = .ok r₀)
    (h : Reachable r₀ r) {n : Nat} (hn : r.backlog.length ≤ n) :
    ∃ events r', r.offerTimes n = some r' ∧ r.run events = some r' ∧ r'.Stops := by
  induction n generalizing r with
  | zero =>
    have hnil : r.backlog = [] := List.length_eq_zero_iff.mp (Nat.le_zero.mp hn)
    exact ⟨[], r, rfl, rfl, r, by simp only [offerFirst, hnil]⟩
  | succ n ih =>
    obtain ⟨-, g, hbalanced⟩ := balanced_of_reachable hstart h
    obtain ⟨r₁, more, hoffer⟩ := hbalanced.exists_offerFirst
    have hstep : r.step .offer = some r₁ := by simp only [step, hoffer, Option.map_some]
    have htimes : r.offerTimes (n + 1) = if more = true then r₁.offerTimes n else some r₁ := by
      simp only [offerTimes, hoffer, Option.bind_eq_bind, Option.bind_some]
    cases more with
    | true =>
      have hlength := length_of_offerFirst hoffer
      obtain ⟨events, r', htimes', hrun, hstops⟩ := ih (h.step hstep) (by omega)
      refine ⟨.offer :: events, r', ?_, ?_, hstops⟩
      · rw [htimes, if_pos rfl, htimes']
      · rw [run, hstep, Option.bind_some, hrun]
    | false =>
      obtain rfl := eq_of_offerFirst hoffer
      refine ⟨[.offer], r₁, by rw [htimes]; rfl, ?_, r₁, hoffer⟩
      rw [run, hstep]
      rfl

/-! ## Dropped in time -/

/-- The workers have nothing of a connection: its ticket is neither in the queue nor in their
hands, and in no message. -/
def IsKeptBack (r : EventLoop) (t : Ticket) : Prop :=
  t ∉ r.pool.queue.map (·.ticket) ∧ t ∉ r.pool.workers.filterMap heldBy? ∧ t ∉ r.messages.map (·.1)

theorem isKeptBack_of_load_le (h : r.load t ≤ r.backlog.count t) : r.IsKeptBack t := by
  rw [load_eq] at h
  exact ⟨List.count_eq_zero.mp (by omega), List.count_eq_zero.mp (by omega),
    List.count_eq_zero.mp (by omega)⟩

theorem Disciplined.isKeptBack_of_mem (h : r.Disciplined none) (ht : t ∈ r.backlog) :
    r.IsKeptBack t := by
  have hone : r.load t ≤ 1 := List.nodup_iff_count_le_one.mp (List.Nodup.of_map _ h.lone) t
  exact isKeptBack_of_load_le (hone.trans (List.count_pos_iff.mpr ht))

/-- What has no slot any more is nowhere. -/
theorem Disciplined.isKeptBack_of_isGone (h : r.Disciplined none) (hgone : r.IsGone t.id) :
    r.IsKeptBack t := by
  have hzero : r.load t = 0 := by
    by_contra hsome
    obtain ⟨-, s, hs⟩ := h.owned (Nat.pos_of_ne_zero hsome)
    obtain ⟨hget, hid⟩ := slot?_eq_some.mp hs
    exact hgone t.key s hget hid
  exact isKeptBack_of_load_le (hzero ▸ Nat.zero_le _)

/-- A connection that had its slot at `r` is closed at `r'`, once, and for being idle unless it was
condemned for another reason already. -/
def WasDropped (r r' : EventLoop) (t : Ticket) : Prop :=
  ∃ s, r.slot? t = some s ∧ r'.closings t.id = [s.condemned.getD .idleTimeout] ∧ r'.IsGone t.id

/-- What a tick has condemned is closed for that, if it is closed at all. -/
theorem wasDropped_of_closed
    (hstart : start config service credentials storage handles = .ok r₀)
    (h : Reachable r₀ r₁) {s s₁ : Slot} (hs : r.slot? t = some s) (hs₁ : r₁.slot? t = some s₁)
    (hcondemned : s₁.condemned = some (s.condemned.getD .idleTimeout))
    (hrun : r₁.run events = some r') (hclosed : ∃ reason, (t.id, reason) ∈ r'.closed) :
    WasDropped r r' t := by
  obtain ⟨reason, hreason⟩ := hclosed
  have htallied := (tallied_of_reachable hstart h).changes (changes_run hrun)
  obtain ⟨-, hgone⟩ := htallied.closings_eq hreason
  rcases Sentenced.run hstart h (Or.inl ⟨s₁, hs₁, hcondemned⟩) hrun with ⟨s', hs', -⟩ | hclosed
  · obtain ⟨hget, hid⟩ := slot?_eq_some.mp hs'
    exact absurd hid (hgone t.key s' hget)
  · exact ⟨s, hs, htallied.closings_eq hclosed⟩

/-- **What was idle for too long while it waited for room is dropped.**  Along a run with a clock
that does not go back the backlog is in the order in which its connections were submitted last,
and their deadlines ascend along it: the last activity on each and the time it may be idle, which
is what the list of deadlines says unless the deadline has passed.

So let there be a tick at `now`.  From then on, whatever happens, no connection of the backlog
whose deadline had passed by `now` comes to the workers.  When the loop stops going through the
backlog, be it because the queue is full, each of them is closed; and going through the backlog at
any time succeeds and closes those that are left. -/
theorem backlog_dropped_in_time
    (hstart : start config service credentials storage handles = .ok r₀)
    (hrun : r₀.run events = some r) (hclock : (readings events).Pairwise (· ≤ ·)) :
    (r.backlog.map (·.id)).Sublist (r₀.submissions events).dedup ∧
    (r.backlog.map fun t => r₀.lapse t.id events).Pairwise (· ≤ ·) ∧
    (∀ t ∈ r.backlog, ∃ s last, r.slot? t = some s ∧
      (r₀.activity t.id events).max? = some last ∧
      r₀.lapse t.id events = last + 3 * config.clock.idleUnit ∧
      ∀ id, s.deadline = some id → r.deadlines.deadline? id = some (r₀.lapse t.id events)) ∧
    ∀ now, ∃ r₁, r.step (.tick now) = some r₁ ∧ ∀ later r₂, r₁.run later = some r₂ →
      (∀ t ∈ r.backlog, r₀.lapse t.id events ≤ now →
        (t ∈ r₂.backlog ∨ WasDropped r r₂ t) ∧ r₂.IsKeptBack t ∧
        (r₂.Stops → WasDropped r r₂ t)) ∧
      ∃ r₃, r₂.offerBacklog = some r₃ ∧
        ∀ t ∈ r.backlog, r₀.lapse t.id events ≤ now → WasDropped r r₃ t := by
  have hturn := inTurn_of_run hstart hrun hclock
  obtain ⟨hr, g, hbalanced, htimely⟩ := timely_of_run hstart hrun hclock
  have hconfig : r₀.config = config := (balanced_start hstart).config_eq
  have hslot : ∀ t ∈ r.backlog, ∃ s, r.slot? t = some s := fun t ht =>
    (hr.owned (mem_transit_iff.mp (List.mem_append_left _ ht))).2
  refine ⟨hturn.order, hturn.lapses, fun t ht => ?_, fun now => ?_⟩
  · obtain ⟨s, hs⟩ := hslot t ht
    obtain ⟨last, hmax, hlapse, hdeadline⟩ := htimely.lapse_eq hbalanced hconfig hs
    exact ⟨s, last, hs, hmax, hlapse.trans (congrArg _ (Nat.mul_comm _ _)), hdeadline⟩
  obtain ⟨r₁, htick, -, -⟩ := hbalanced.tick now
  have hreach : Reachable r₀ r₁ := Reachable.step (e := .tick now) ⟨events, hrun⟩ htick
  have hdropping := dropping_of_tick hr hbalanced htimely hconfig hturn htick
  have hdue : ∀ t ∈ r.backlog, r₀.lapse t.id events ≤ now →
      t ∈ r.backlog.filter fun t => r₀.lapse t.id events ≤ now := fun t ht hpast =>
    List.mem_filter.mpr ⟨ht, by simpa using hpast⟩
  have hdropped : ∀ later r₂, r₁.run later = some r₂ → ∀ t ∈ r.backlog,
      r₀.lapse t.id events ≤ now → (∃ reason, (t.id, reason) ∈ r₂.closed) → WasDropped r r₂ t := by
    intro later r₂ hlater t ht hpast hclosed
    obtain ⟨s, hs⟩ := hslot t ht
    obtain ⟨s₁, hs₁, hcondemned⟩ := condemned_of_tick hr hbalanced htimely hconfig
      (List.mem_append_left _ ht) hs hpast htick
    exact wasDropped_of_closed hstart hreach hs hs₁ hcondemned hlater hclosed
  refine ⟨r₁, htick, fun later r₂ hlater => ⟨fun t ht hpast => ?_, ?_⟩⟩
  · have hdropping₂ := hdropping.run hstart hreach hlater
    have hr₂ := disciplined_of_reachable hstart (hreach.trans ⟨later, hlater⟩)
    have hstops : r₂.Stops → WasDropped r r₂ t := fun hstops =>
      hdropped later r₂ hlater t ht hpast (hdropping₂.closed_of_stops hstops t (hdue t ht hpast))
    obtain ⟨front, rest, hbacklog, -, hcases⟩ := hdropping₂
    rcases hcases t (hdue t ht hpast) with hfront | hclosed
    · have hmem : t ∈ r₂.backlog := hbacklog ▸ List.mem_append_left _ hfront
      exact ⟨Or.inl hmem, hr₂.isKeptBack_of_mem hmem, hstops⟩
    · obtain ⟨s, hs, honce, hgone⟩ := hdropped later r₂ hlater t ht hpast hclosed
      exact ⟨Or.inr ⟨s, hs, honce, hgone⟩, hr₂.isKeptBack_of_isGone hgone, hstops⟩
  · obtain ⟨offers, r₃, htimes, hoffers, hstops⟩ :=
      exists_offerTimes hstart (hreach.trans ⟨later, hlater⟩) (Nat.le_refl _)
    have hlater₃ : r₁.run (later ++ offers) = some r₃ := by
      rw [run_append, hlater, Option.bind_some, hoffers]
    exact ⟨r₃, htimes, fun t ht hpast => hdropped _ r₃ hlater₃ t ht hpast
      ((hdropping.run hstart hreach hlater₃).closed_of_stops hstops t (hdue t ht hpast))⟩

/-- A server with one worker, and room for one job. -/
def crowded : EventLoop where
  service := bare.service
  config := { pool := { workers := 1, maxRequests := 1 }, buffers := { readCapacity := 4 } }
  pool := { capacity := 1, workers := [.waiting] }
  credentials := {}
  storage := {}
  handles := [.memory]

/-- Three clients send an octet each.  The first gets the room in the queue, and the others wait:
the second since one, the third since two. -/
def crowding : List Event :=
  [.accept 0 ⟨.v4 [127, 0, 0, 1], 4000, 0⟩ { arriving := [.data [71]] },
    .accept 0 ⟨.v4 [127, 0, 0, 1], 4001, 0⟩ { arriving := [.data [71]] },
    .accept 0 ⟨.v4 [127, 0, 0, 1], 4002, 0⟩ { arriving := [.data [71]] },
    .poll [{ key := 0, source := 0, readable := true }, { key := 1, source := 1, readable := true },
      { key := 2, source := 2, readable := true }],
    .heed 1, .heed 1, .heed 2]

/-- A tick at sixteen: no worker has taken the job of the first client, and still the second is
dropped when the loop goes through the backlog. -/
theorem backlog_dropped_in_time_of_crowding :
    ∃ r r₁ r₃, crowded.run crowding = some r ∧ r.backlog = [⟨1, 1⟩, ⟨2, 2⟩] ∧
      r.step (.tick 16) = some r₁ ∧ r₁.offerBacklog = some r₃ ∧
      r₃.closings 1 = [.idleTimeout] := by
  have hstart : start crowded.config crowded.service {} {} [.memory] = .ok crowded := rfl
  have hwaiting : (crowded.run crowding).map (fun r => (r.backlog, (r.slot? ⟨1, 1⟩).map
      (·.condemned))) = some ([⟨1, 1⟩, ⟨2, 2⟩], some none) := by decide +kernel
  have hlapse : crowded.lapse 1 crowding = 16 := by decide +kernel
  have hclock : (readings crowding).Pairwise (· ≤ ·) := by decide
  obtain ⟨r, hrun, hstate⟩ := Option.map_eq_some_iff.mp hwaiting
  obtain ⟨hbacklog, hslot⟩ := Prod.mk.inj hstate
  obtain ⟨s, hs, hnone⟩ := Option.map_eq_some_iff.mp hslot
  obtain ⟨-, -, -, htick⟩ := backlog_dropped_in_time hstart hrun hclock
  obtain ⟨r₁, htick, hlater⟩ := htick 16
  obtain ⟨-, r₃, hoffers, hdropped⟩ := hlater [] r₁ rfl
  obtain ⟨s', hs', honce, -⟩ := hdropped ⟨1, 1⟩ (hbacklog ▸ List.mem_cons_self)
    (Nat.le_of_eq hlapse)
  obtain rfl := Option.some.inj (hs.symm.trans hs')
  rw [hnone] at honce
  exact ⟨r, r₁, r₃, hrun, hbacklog, htick, hoffers, honce⟩

end Runs

end EventLoop
end Server
end SiteServer
