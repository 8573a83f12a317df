import Mathlib
import NameSlots.Proofs.Service.Limits
import NameSlots.Service.Traffic

/-!
Slots are conserved. Each of them is taken just by those that hold it, from outside or as a request
that runs, whatever happens in which order and however the settings change. While they do not change,
a request is told that the service is busy just when all slots are taken.
-/
namespace NameSlots.Service

/-- Slots that are taken by the users at their places, one by each of them. -/
structure Balanced (limiters : List Limiter) (users : List Nat) : Prop where
  taken : ∀ (place : Nat) (limiter : Limiter), limiters[place]? = some limiter →
    limiter.slots.taken = users.count place
  known : ∀ place ∈ users, place < limiters.length

section Balance

variable {limiters : List Limiter} {users others : List Nat} {place : Nat} {limiter : Limiter}
  {slots : Slots} {settings : Settings}

theorem balanced_perm (h : Balanced limiters users) (hp : users.Perm others) :
    Balanced limiters others :=
  ⟨fun place limiter hl => (h.taken place limiter hl).trans (hp.count_eq place),
    fun place hm => h.known place (hp.mem_iff.2 hm)⟩

/-- New slots are free. -/
theorem balanced_append (h : Balanced limiters users) (hfree : limiter.slots.taken = 0) :
    Balanced (limiters ++ [limiter]) users := by
  constructor
  · intro place found hfound
    by_cases hlt : place < limiters.length
    · rw [List.getElem?_append_left hlt] at hfound
      exact h.taken place found hfound
    · have hlast : limiter = found := by
        rw [List.getElem?_append_right (by omega)] at hfound
        exact (List.mem_singleton.1 (List.mem_of_getElem? hfound)).symm
      have hcount : users.count place = 0 :=
        List.count_eq_zero.2 fun hm => hlt (h.known place hm)
      rw [← hlast, hfree, hcount]
  · intro place hm
    have := h.known place hm
    rw [List.length_append]
    omega

/-- Slots at one place change as their users do. -/
theorem balanced_set (h : Balanced limiters users) (hplace : limiters[place]? = some limiter)
    (hcount : slots.taken = others.count place)
    (hothers : ∀ other ≠ place, others.count other = users.count other) :
    Balanced (limiters.set place { limiter with slots }) others := by
  obtain ⟨hlt, -⟩ := List.getElem?_eq_some_iff.1 hplace
  constructor
  · intro other found hfound
    by_cases hother : other = place
    · subst hother
      rw [List.getElem?_set_self hlt] at hfound
      obtain rfl := Option.some.inj hfound
      exact hcount
    · rw [List.getElem?_set_ne (Ne.symm hother)] at hfound
      rw [h.taken other found hfound, hothers other hother]
  · intro other hm
    rw [List.length_set]
    by_cases hother : other = place
    · omega
    · have hpos : 0 < users.count other := by
        rw [← hothers other hother]
        exact List.count_pos_iff.2 hm
      exact h.known other (List.count_pos_iff.1 hpos)

theorem acquire?_eq_some {before after : Slots} :
    before.acquire? = some after ↔ before.taken < before.capacity ∧
      after.capacity = before.capacity ∧ after.taken = before.taken + 1 := by
  obtain ⟨capacity, taken, hle⟩ := before
  obtain ⟨capacity', taken', hle'⟩ := after
  unfold Slots.acquire?
  split
  · next hlt => simp [hlt, eq_comm]
  · next hlt => simp [hlt]

theorem release?_eq_some {before after : Slots} :
    before.release? = some after ↔
      after.capacity = before.capacity ∧ after.taken + 1 = before.taken := by
  obtain ⟨capacity, taken, hle⟩ := before
  obtain ⟨capacity', taken', hle'⟩ := after
  unfold Slots.release? Slots.release
  dsimp only
  split
  · next hzero =>
    simp only [reduceCtorEq, false_iff, not_and]
    omega
  · next hpos =>
    simp only [Option.some.injEq, Slots.mk.injEq]
    omega

/-- The slots that are taken are as many as their users. -/
theorem balanced_sum (h : Balanced limiters users) :
    limiters.foldr (·.slots.taken + ·) 0 = users.length := by
  have hfold : limiters.foldr (·.slots.taken + ·) 0 = (limiters.map (·.slots.taken)).sum := by
    rw [List.sum, List.foldr_map]
  have htaken : limiters.map (·.slots.taken) =
      (List.range limiters.length).map (users.count ·) := by
    apply List.ext_getElem (by simp)
    intro place hplace _
    rw [List.getElem_map, List.getElem_map, List.getElem_range]
    rw [List.length_map] at hplace
    exact h.taken place _ (List.getElem?_eq_getElem hplace)
  have hsum : ∑ place ∈ Finset.range limiters.length, (users : Multiset Nat).count place =
      Multiset.card (users : Multiset Nat) :=
    Multiset.sum_count_eq_card fun place hm =>
      Finset.mem_range.2 (h.known place (Multiset.mem_coe.1 hm))
  rw [hfold, htaken]
  simpa [Finset.sum, Multiset.range] using hsum

end Balance

/-- What slots are set to, whether they are taken or not. -/
def kinds (limiters : List Limiter) : List (Nat × Double) :=
  limiters.map fun limiter => (limiter.slots.capacity, limiter.queueTimeout)

theorem kinds_set {limiters : List Limiter} {place : Nat} {limiter : Limiter} {slots : Slots}
    (hplace : limiters[place]? = some limiter) (hc : slots.capacity = limiter.slots.capacity) :
    kinds (limiters.set place { limiter with slots }) = kinds limiters := by
  obtain ⟨hlt, rfl⟩ := List.getElem?_eq_some_iff.1 hplace
  have hk : place < (kinds limiters).length := by simpa [kinds] using hlt
  have hset : kinds (limiters.set place { limiters[place] with slots }) =
      (kinds limiters).set place (kinds limiters)[place] := by
    simp [kinds, List.map_set, hc]
  rw [hset, List.set_getElem_self]

/-- Slots are told by what they are set to and by their users. -/
theorem balanced_unique {limiters others : List Limiter} {users : List Nat}
    (h : Balanced limiters users) (h' : Balanced others users) (hk : kinds limiters = kinds others) :
    limiters = others := by
  have hlength : limiters.length = others.length := by simpa [kinds] using congrArg List.length hk
  refine List.ext_getElem hlength fun place hlt hlt' => ?_
  have hkind : (kinds limiters)[place]? = (kinds others)[place]? := by rw [hk]
  have htaken := h.taken place _ (List.getElem?_eq_getElem hlt)
  have htaken' := h'.taken place _ (List.getElem?_eq_getElem hlt')
  simp only [kinds, List.getElem?_map, List.getElem?_eq_getElem hlt, List.getElem?_eq_getElem hlt',
    Option.map_some, Option.some.injEq, Prod.mk.injEq] at hkind
  generalize limiters[place] = limiter at htaken hkind ⊢
  generalize others[place] = other at htaken' hkind ⊢
  obtain ⟨⟨capacity, taken, hle⟩, timeout⟩ := limiter
  obtain ⟨⟨capacity', taken', hle'⟩, timeout'⟩ := other
  obtain ⟨rfl, rfl⟩ := hkind
  obtain rfl := htaken.trans htaken'.symm
  rfl

namespace Traffic

variable {traffic after : Traffic} {response : Response} {place index : Nat} {job : Job}
  {settings : Settings} {event : Event} {others : List Nat} {context : Context}
  {operation : Operation} {body : Bytes} {timing : Timing} {conclusion : Conclusion}

/-! ## Taking and giving back -/

theorem take?_eq_some (ht : traffic.take? place = some after) :
    ∃ limiter slots, traffic.limiters[place]? = some limiter ∧
      limiter.slots.acquire? = some slots ∧
      after = { traffic with limiters := traffic.limiters.set place { limiter with slots } } := by
  obtain ⟨limiter, hplace, ht⟩ := Option.bind_eq_some_iff.1 ht
  obtain ⟨slots, hslots, ht⟩ := Option.bind_eq_some_iff.1 ht
  exact ⟨limiter, slots, hplace, hslots, (Option.some.inj ht).symm⟩

theorem balanced_take (h : Balanced traffic.limiters others)
    (ht : traffic.take? place = some after) :
    ∃ limiters, after = { traffic with limiters } ∧ Balanced limiters (place :: others) ∧
      kinds limiters = kinds traffic.limiters := by
  obtain ⟨limiter, slots, hplace, hslots, rfl⟩ := take?_eq_some ht
  obtain ⟨-, hc, htaken⟩ := acquire?_eq_some.1 hslots
  refine ⟨_, rfl, balanced_set h hplace ?_ ?_, kinds_set hplace hc⟩
  · rw [htaken, h.taken _ _ hplace, List.count_cons_self]
  · exact fun other hne => List.count_cons_of_ne hne.symm

/-- What was taken can be given back. -/
theorem balanced_give (traffic : Traffic) (h : Balanced traffic.limiters (place :: others)) :
    ∃ limiters, traffic.give? place = some { traffic with limiters } ∧ Balanced limiters others ∧
      kinds limiters = kinds traffic.limiters := by
  have hlt := h.known place List.mem_cons_self
  have hplace := List.getElem?_eq_getElem hlt
  have htaken := h.taken place _ hplace
  rw [List.count_cons_self] at htaken
  obtain ⟨slots, hslots⟩ : ∃ slots, traffic.limiters[place].slots.release? = some slots := by
    rw [Slots.release?, if_neg (by omega)]
    exact ⟨_, rfl⟩
  obtain ⟨hc, hless⟩ := release?_eq_some.1 hslots
  refine ⟨traffic.limiters.set place { traffic.limiters[place] with slots }, ?_, ?_, ?_⟩
  · simp [give?, hlt, hslots]
  · refine balanced_set h hplace (by omega) ?_
    exact fun other hne => (List.count_cons_of_ne hne.symm).symm
  · exact kinds_set hplace hc

/-! ## What events do to the slots -/

/-- The places of the slots that are taken, one for each of their users. -/
def users (traffic : Traffic) : List Nat := traffic.held ++ traffic.running.map Job.limiter

/-- Every slot that is taken has one user. -/
def Conserved (traffic : Traffic) : Prop := Balanced traffic.limiters traffic.users

theorem conserved_empty : Conserved {} :=
  ⟨fun place limiter h => by simp at h, fun place h => by simp [users] at h⟩

theorem Conserved.inUse (h : traffic.Conserved) :
    traffic.inUse = traffic.held.length + traffic.running.length := by
  rw [Traffic.inUse, balanced_sum h, users, List.length_append, List.length_map]

/-- The slots are those that the service was set to, or new ones. -/
theorem ready_eq (traffic : Traffic) (settings : Settings) :
    traffic.ready settings = traffic ∨ traffic.ready settings =
      { traffic with limiters := traffic.limiters ++ [.ofSettings settings] } := by
  unfold ready
  split
  · exact .inl rfl
  · exact .inr rfl

theorem ready_limiters (traffic : Traffic) (settings : Settings) :
    ∃ limiters, traffic.ready settings = { traffic with limiters } := by
  rcases ready_eq traffic settings with he | he
  · exact ⟨traffic.limiters, he⟩
  · exact ⟨_, he⟩

theorem conserved_ready (h : traffic.Conserved) (settings : Settings) :
    (traffic.ready settings).Conserved := by
  rcases ready_eq traffic settings with he | he
  · rw [he]
    exact h
  · rw [he]
    exact balanced_append h (Nat.zero_min _)

theorem conserved_start (h : traffic.Conserved) (hs : traffic.start? job = some after) :
    ∃ limiters, after = { traffic with limiters, running := traffic.running ++ [job] } ∧
      after.Conserved ∧ kinds limiters = kinds traffic.limiters := by
  obtain ⟨taken, htake, hs⟩ := Option.bind_eq_some_iff.1 hs
  obtain ⟨limiters, rfl, hbalanced, hkinds⟩ := balanced_take h htake
  obtain rfl := Option.some.inj hs
  refine ⟨limiters, rfl, balanced_perm hbalanced ?_, hkinds⟩
  simp only [users, List.map_append, List.map_cons, List.map_nil, ← List.append_assoc]
  exact (List.perm_append_singleton _ _).symm

/-- A request that runs can end, however it ends, and gives its slot back. -/
theorem conserved_finish (h : traffic.Conserved) (hj : traffic.running[index]? = some job)
    (timing : Timing) (conclusion : Conclusion) :
    ∃ limiters, let after := { traffic with limiters, running := traffic.running.eraseIdx index }
      traffic.finish index timing conclusion =
        some (after, Job.ended { job with context := { job.context with timing } } conclusion) ∧
      after.Conserved ∧ kinds limiters = kinds traffic.limiters := by
  obtain ⟨hlt, rfl⟩ := List.getElem?_eq_some_iff.1 hj
  have hperm : traffic.users.Perm (traffic.running[index].limiter ::
      (traffic.held ++ (traffic.running.eraseIdx index).map Job.limiter)) := by
    have hrunning := (List.getElem_cons_eraseIdx_perm hlt).map Job.limiter
    exact ((hrunning.symm.append_left _).trans List.perm_middle)
  obtain ⟨limiters, hgive, hbalanced, hkinds⟩ :=
    balanced_give { traffic with running := traffic.running.eraseIdx index }
      (balanced_perm h hperm)
  refine ⟨limiters, ?_, hbalanced, hkinds⟩
  simp [finish, hlt, hgive]

theorem conserved_letGo (h : traffic.Conserved) (hp : traffic.held[index]? = some place) :
    ∃ limiters, let after := { traffic with limiters, held := traffic.held.eraseIdx index }
      traffic.letGo index = some (after, {}) ∧ after.Conserved ∧
        kinds limiters = kinds traffic.limiters := by
  obtain ⟨hlt, rfl⟩ := List.getElem?_eq_some_iff.1 hp
  have hperm : traffic.users.Perm (traffic.held[index] ::
      (traffic.held.eraseIdx index ++ traffic.running.map Job.limiter)) :=
    ((List.getElem_cons_eraseIdx_perm hlt).symm.append_right _)
  obtain ⟨limiters, hgive, hbalanced, hkinds⟩ := balanced_give traffic (balanced_perm h hperm)
  refine ⟨limiters, ?_, hbalanced, hkinds⟩
  simp [letGo, hlt, hgive]

theorem conserved_hold (h : traffic.Conserved) (hs : traffic.hold settings = some (after, response)) :
    ∃ limiters place, after = { traffic with limiters, held := traffic.held ++ [place] } ∧
      after.Conserved ∧ kinds limiters = kinds (traffic.ready settings).limiters := by
  obtain ⟨taken, htake, hs⟩ := Option.bind_eq_some_iff.1 hs
  obtain ⟨limiters, rfl, hbalanced, hkinds⟩ := balanced_take (conserved_ready h settings) htake
  obtain ⟨rfl, rfl⟩ := Prod.mk.inj (Option.some.inj hs)
  obtain ⟨older, hready⟩ := ready_limiters traffic settings
  rw [hready] at hbalanced ⊢
  refine ⟨limiters, _, rfl, balanced_perm hbalanced ?_, by rw [hkinds, hready]⟩
  exact ((List.perm_append_singleton _ _).symm.append_right _)

/-- What a request that comes leaves behind: it is turned down, waits or runs. -/
theorem conserved_arrive (h : traffic.Conserved)
    (hs : traffic.arrive context operation body = some (after, response)) : after.Conserved := by
  unfold arrive at hs
  split at hs
  · obtain ⟨rfl, rfl⟩ := Prod.mk.inj (Option.some.inj hs)
    exact h
  · have hready := conserved_ready h context.settings
    obtain ⟨limiter, -, hs⟩ := Option.bind_eq_some_iff.1 hs
    split at hs
    · obtain ⟨rfl, rfl⟩ := Prod.mk.inj (Option.some.inj hs)
      exact hready
    · split at hs
      · next hstart =>
        obtain ⟨rfl, rfl⟩ := Prod.mk.inj (Option.some.inj hs)
        exact (conserved_start hready hstart).choose_spec.2.1
      · obtain ⟨rfl, rfl⟩ := Prod.mk.inj (Option.some.inj hs)
        exact hready

/-- Slots are conserved by whatever happens. -/
theorem conserved_step (h : traffic.Conserved) (hs : traffic.step event = some (after, response)) :
    after.Conserved := by
  cases event with
  | arrive context operation body => exact conserved_arrive h hs
  | retry index =>
    obtain ⟨job, -, hs⟩ := Option.bind_eq_some_iff.1 hs
    split at hs
    · next hstart =>
      obtain ⟨rfl, rfl⟩ := Prod.mk.inj (Option.some.inj hs)
      exact (conserved_start h hstart).choose_spec.2.1
    · obtain ⟨rfl, rfl⟩ := Prod.mk.inj (Option.some.inj hs)
      exact h
  | giveUp index =>
    obtain ⟨job, -, hs⟩ := Option.bind_eq_some_iff.1 hs
    obtain ⟨limiter, -, hs⟩ := Option.bind_eq_some_iff.1 hs
    obtain ⟨rfl, rfl⟩ := Prod.mk.inj (Option.some.inj hs)
    exact h
  | finish index timing conclusion =>
    obtain ⟨job, hj, -⟩ := Option.bind_eq_some_iff.1 hs
    obtain ⟨limiters, hfinish, hafter, -⟩ := conserved_finish h hj timing conclusion
    obtain ⟨rfl, rfl⟩ := Prod.mk.inj (Option.some.inj (hfinish.symm.trans hs))
    exact hafter
  | hold settings => exact (conserved_hold h hs).choose_spec.choose_spec.2.1
  | letGo index =>
    obtain ⟨place, hp, -⟩ := Option.bind_eq_some_iff.1 hs
    obtain ⟨limiters, hletGo, hafter, -⟩ := conserved_letGo h hp
    obtain ⟨rfl, rfl⟩ := Prod.mk.inj (Option.some.inj (hletGo.symm.trans hs))
    exact hafter

/-- What every one of some events keeps, a run of them keeps. -/
theorem run_keeps {P : Traffic → Prop} {events : List Event}
    (hstep : ∀ event ∈ events, ∀ before after response,
      P before → before.step event = some (after, response) → P after)
    (h : P traffic) (hr : traffic.run events = some after) : P after := by
  induction events generalizing traffic with
  | nil =>
    obtain rfl := Option.some.inj hr
    exact h
  | cons event events ih =>
    obtain ⟨hfirst, hrest⟩ := List.forall_mem_cons.1 hstep
    simp only [run] at hr
    split at hr
    · next hs => exact ih hrest (hfirst _ _ _ h hs) hr
    · cases hr

/-- Every run conserves the slots, also one in which the settings change. -/
theorem conserved_run {events : List Event} (hr : run {} events = some traffic) :
    traffic.Conserved :=
  run_keeps (fun _ _ _ _ _ h hs => conserved_step h hs) conserved_empty hr

end Traffic

/-! ## Settings that stay -/

/-- Settings with a number of slots for which no request waits. -/
def Settings.Fixed (capacity : Nat) (settings : Settings) : Prop :=
  settings.capacity = capacity ∧ settings.queueTimeout.isZero = true

/-- An event under such settings. -/
def Event.Fixed (capacity : Nat) : Event → Prop
  | .arrive context _ _ => context.settings.Fixed capacity
  | .hold settings => settings.Fixed capacity
  | _ => True

/-- No number of slots but one was ever set. -/
structure Traffic.Steady (capacity : Nat) (traffic : Traffic) : Prop where
  kinds : ∀ kind ∈ kinds traffic.limiters, kind.1 = capacity ∧ kind.2.isZero = true
  single : (Service.kinds traffic.limiters).length ≤ 1
  waiting : traffic.waiting = []

theorem equals_of_isZero {x y : Double} (hx : x.isZero = true) (hy : y.isZero = true) :
    x.equals y = true := by
  have hunits {x : Double} (h : x.isZero = true) : x.units? = some 0 := by
    simpa [Double.isZero] using h
  have hsigned {x : Double} (h : x.isZero = true) : x.signedUnits? = some 0 := by
    simp [Double.signedUnits?, hunits h]
  have hx' := hsigned hx
  have hy' := hsigned hy
  cases x <;> cases y <;> simp_all [Double.equals, Double.isZero, Double.units?]

namespace Traffic

variable {traffic after : Traffic} {response : Response} {place index capacity : Nat} {job : Job}
  {settings : Settings} {event : Event} {context : Context} {operation : Operation} {body : Bytes}
  {task : Task}

theorem Steady.fits (h : traffic.Steady capacity) (hf : settings.Fixed capacity) {limiter : Limiter}
    (hl : limiter ∈ traffic.limiters) : limiter.fits settings = true := by
  obtain ⟨hc, hzero⟩ := h.kinds _ (List.mem_map_of_mem hl)
  simp only [Limiter.fits, Bool.and_eq_true, beq_iff_eq]
  exact ⟨hc.trans hf.1.symm, equals_of_isZero hzero hf.2⟩

theorem Steady.limiters (h : traffic.Steady capacity) :
    traffic.limiters = [] ∨ ∃ limiter, traffic.limiters = [limiter] := by
  have hsingle := h.single
  rw [Service.kinds, List.length_map] at hsingle
  match hl : traffic.limiters with
  | [] => exact .inl rfl
  | [limiter] => exact .inr ⟨limiter, rfl⟩
  | _ :: _ :: _ => simp [hl] at hsingle

/-- The slots that are ready are not others than before if there were any. -/
theorem steady_ready (h : traffic.Steady capacity) (hf : settings.Fixed capacity) :
    (traffic.ready settings).Steady capacity ∧ (traffic.ready settings).inUse = traffic.inUse ∧
      ∃ limiter, (traffic.ready settings).limiters = [limiter] := by
  rcases h.limiters with hl | ⟨limiter, hl⟩
  · have hready : traffic.ready settings = { traffic with limiters := [.ofSettings settings] } := by
      simp [ready, hl]
    rw [hready]
    refine ⟨⟨?_, by simp [Service.kinds], h.waiting⟩, ?_, _, rfl⟩
    · simpa [Service.kinds, Limiter.ofSettings, Slots.held, Settings.Fixed] using hf
    · simp [inUse, hl, Limiter.ofSettings, Slots.held]
  · have hfits := h.fits hf (hl ▸ List.mem_singleton_self limiter)
    have hready : traffic.ready settings = traffic := by simp [ready, hl, hfits]
    rw [hready]
    exact ⟨h, rfl, limiter, hl⟩

theorem Steady.of_kinds (h : traffic.Steady capacity) (hk : Service.kinds after.limiters =
    Service.kinds traffic.limiters) (hw : after.waiting = []) : after.Steady capacity :=
  ⟨hk ▸ h.kinds, hk ▸ h.single, hw⟩

/-- What comes of a request while the settings stay: without a task it is told so, whatever goes on;
else it is told that all slots are taken, or gets one of them and runs. -/
inductive Served (capacity : Nat) (traffic : Traffic) (context : Context) (operation : Operation)
    (body : Bytes) : Traffic → Response → Prop where
  | invalid {fault : PlanFault} {response : Response} :
      Plan.task context.settings context.files operation body = .error fault →
      (∀ (other : Traffic) (slots : Slots),
        other.arrive { context with slots } operation body = some (other, response)) →
      Served capacity traffic context operation body traffic response
  | busy {task : Task} {after : Traffic} {response : Response} {reply : Reply} :
      Plan.task context.settings context.files operation body = .ok task →
      traffic.inUse = capacity → after.inUse = traffic.inUse → after.held = traffic.held →
      after.running = traffic.running → response.reply = some reply → reply.status = 429 →
      Served capacity traffic context operation body after response
  | started {task : Task} {after : Traffic} {job : Job} :
      Plan.task context.settings context.files operation body = .ok task →
      traffic.inUse < capacity → after.inUse = traffic.inUse + 1 → after.held = traffic.held →
      job.context = context → job.operation = operation → job.task = task →
      after.running = traffic.running ++ [job] →
      Served capacity traffic context operation body after job.started

theorem respond_eq (context : Context) (operation : Operation) (exchange : Exchange) :
    context.respond operation exchange =
      if exchange.reply.body.isFinite then ⟨some exchange.reply, exchange.log⟩
      else ⟨some (context.brokenReply operation.path), exchange.log ++ [.unanswered]⟩ := by
  unfold Context.respond Context.ensureWritten
  by_cases hfinite : exchange.reply.body.isFinite = true <;> simp [hfinite]

/-- What is told of a request that is turned down at once does not depend on the slots. -/
theorem respond_fail_slots (context : Context) (slots : Slots) (operation : Operation)
    (stage : Stage) (failure : Failure) :
    Context.respond { context with slots } operation
        (Context.fail { context with slots } operation stage failure) =
      context.respond operation (context.fail operation stage failure) := by
  rw [respond_eq, respond_eq]
  rfl

theorem turnedDown_status (job : Job) {limiter : Limiter} (h : limiter.isPatient = false) :
    ∃ reply, (job.turnedDown limiter).reply = some reply ∧ reply.status = 429 := by
  have hzero : limiter.queueTimeout.units? = some 0 := by
    simpa [Limiter.isPatient, Double.isZero] using h
  have hfinite : (job.context.fail job.operation .acquire (.refused
      (.busy limiter.slots.capacity limiter.queueTimeout))).reply.body.isFinite = true :=
    Context.isFinite_busy _ (by simp [hzero])
  rw [Job.turnedDown, respond_eq, if_pos hfinite]
  exact ⟨_, rfl, rfl⟩

/-- A request that does not wait starts unless all slots are taken. -/
theorem arrive_task {limiter : Limiter}
    (hplan : Plan.task context.settings context.files operation body = .ok task)
    (hplace : (traffic.ready context.settings).limiters[(traffic.ready context.settings).current]? =
      some limiter) (hp : limiter.isPatient = false) :
    let ready := traffic.ready context.settings
    let job : Job := ⟨context, operation, task, ready.current⟩
    (∃ after, limiter.slots.taken < limiter.slots.capacity ∧ ready.start? job = some after ∧
      traffic.arrive context operation body = some (after, job.started)) ∨
    limiter.slots.taken = limiter.slots.capacity ∧
      traffic.arrive context operation body = some (ready, job.turnedDown limiter) := by
  dsimp only
  have hle := limiter.slots.taken_le
  rcases Nat.lt_or_eq_of_le hle with hfree | hfull
  · obtain ⟨slots, hslots⟩ := Context.acquire?_eq hfree
    left
    simp [arrive, start?, take?, hplan, hplace, hp, hslots, hfree]
  · have hslots : limiter.slots.acquire? = none := by simp [Slots.acquire?, hfull]
    right
    simp [arrive, start?, take?, hplan, hplace, hp, hslots, hfull]

/-- One limiter has the slots that are taken. -/
theorem inUse_single {limiter : Limiter} (hl : traffic.limiters = [limiter]) :
    traffic.inUse = limiter.slots.taken := by
  simp [inUse, hl]

theorem arrive_served (h : traffic.Conserved) (hs : traffic.Steady capacity)
    (hf : context.settings.Fixed capacity) (operation : Operation) (body : Bytes) :
    ∃ after response, traffic.arrive context operation body = some (after, response) ∧
      after.Steady capacity ∧ Served capacity traffic context operation body after response := by
  cases hplan : Plan.task context.settings context.files operation body with
  | error fault =>
    refine ⟨traffic, _, by rw [arrive, hplan], hs, .invalid hplan fun other slots => ?_⟩
    simp only [arrive, hplan]
    rw [respond_fail_slots]
  | ok task =>
    obtain ⟨hsteady, huse, limiter, hl⟩ := steady_ready hs hf
    obtain ⟨hc, hzero⟩ := hsteady.kinds _ (List.mem_map_of_mem (hl ▸ List.mem_singleton_self _))
    have hpatient : limiter.isPatient = false := by simpa [Limiter.isPatient] using hzero
    rw [inUse_single hl] at huse
    obtain ⟨older, hready⟩ := ready_limiters traffic context.settings
    have hplace : (traffic.ready context.settings).limiters[(traffic.ready context.settings).current]?
        = some limiter := by simp [current, hl]
    rcases arrive_task hplan hplace hpatient with
      ⟨after, hfree, hstart, harrive⟩ | ⟨hfull, harrive⟩
    · obtain ⟨limiters, hafter, hconserved, hkinds⟩ :=
        conserved_start (conserved_ready h context.settings) hstart
      have hmore : after.inUse = traffic.inUse + 1 := by
        rw [hconserved.inUse, h.inUse, hafter, hready, List.length_append]
        rfl
      refine ⟨after, _, harrive, hsteady.of_kinds (by rw [hafter, hkinds])
        (by rw [hafter, hsteady.waiting]), .started hplan (by omega) hmore ?_ rfl rfl rfl ?_⟩
      · rw [hafter, hready]
      · rw [hafter, hready]
    · obtain ⟨reply, hreply, hstatus⟩ := turnedDown_status _ hpatient
      refine ⟨_, _, harrive, hsteady, .busy hplan (by omega) ?_ ?_ ?_ hreply hstatus⟩
      · rw [inUse_single hl, huse]
      · rw [hready]
      · rw [hready]

/-- A request that ends is told so, unless its client is gone, and never that the service is busy. -/
theorem ended_status (job : Job) (conclusion : Conclusion) :
    ((job.ended conclusion).reply = none ↔ conclusion = .abandoned) ∧
      ∀ reply ∈ (job.ended conclusion).reply, reply.status ∈ [200, 408, 500] := by
  have hrespond {exchange : Exchange} (h : exchange.reply.status ∈ [200, 408, 500]) :
      (job.context.respond job.operation exchange).reply ≠ none ∧
        ∀ reply ∈ (job.context.respond job.operation exchange).reply,
          reply.status ∈ [200, 408, 500] := by
    rw [respond_eq]
    split
    · simpa using h
    · simp [Context.brokenReply]
  cases conclusion with
  | abandoned => simp [Job.ended, Job.conclude]
  | answered answer => simpa [Job.ended, Job.conclude] using hrespond (by simp)
  | _ =>
    simpa [Job.ended, Job.conclude] using
      hrespond (by simp [Job.failed, Context.fail, Context.failureReply, Failure.status])

theorem steady_step (h : traffic.Conserved) (hs : traffic.Steady capacity)
    (hf : event.Fixed capacity) (hstep : traffic.step event = some (after, response)) :
    after.Steady capacity := by
  cases event with
  | arrive context operation body =>
    obtain ⟨left, told, harrive, hleft, -⟩ := arrive_served h hs hf operation body
    obtain ⟨rfl, rfl⟩ := Prod.mk.inj (Option.some.inj (harrive.symm.trans hstep))
    exact hleft
  | retry index =>
    obtain ⟨job, hj, -⟩ := Option.bind_eq_some_iff.1 hstep
    simp [hs.waiting] at hj
  | giveUp index =>
    obtain ⟨job, hj, -⟩ := Option.bind_eq_some_iff.1 hstep
    simp [hs.waiting] at hj
  | finish index timing conclusion =>
    obtain ⟨job, hj, -⟩ := Option.bind_eq_some_iff.1 hstep
    obtain ⟨limiters, hfinish, -, hkinds⟩ := conserved_finish h hj timing conclusion
    obtain ⟨rfl, rfl⟩ := Prod.mk.inj (Option.some.inj (hfinish.symm.trans hstep))
    exact hs.of_kinds hkinds hs.waiting
  | hold settings =>
    obtain ⟨limiters, place, rfl, -, hkinds⟩ := conserved_hold h hstep
    exact ⟨hkinds ▸ (steady_ready hs hf).1.kinds, hkinds ▸ (steady_ready hs hf).1.single, hs.waiting⟩
  | letGo index =>
    obtain ⟨place, hp, -⟩ := Option.bind_eq_some_iff.1 hstep
    obtain ⟨limiters, hletGo, -, hkinds⟩ := conserved_letGo h hp
    obtain ⟨rfl, rfl⟩ := Prod.mk.inj (Option.some.inj (hletGo.symm.trans hstep))
    exact hs.of_kinds hkinds hs.waiting

theorem steady_run {events : List Event} (hf : ∀ event ∈ events, event.Fixed capacity)
    (hr : run {} events = some traffic) : traffic.Conserved ∧ traffic.Steady capacity := by
  have hempty : Steady capacity {} := ⟨by simp [Service.kinds], by simp [Service.kinds], rfl⟩
  refine run_keeps (P := fun traffic => traffic.Conserved ∧ traffic.Steady capacity) ?_
    ⟨conserved_empty, hempty⟩ hr
  intro event hm before after response ⟨hconserved, hsteady⟩ hstep
  exact ⟨conserved_step hconserved hstep, steady_step hconserved hsteady (hf event hm) hstep⟩

theorem Steady.inUse_le (h : traffic.Steady capacity) : traffic.inUse ≤ capacity := by
  rcases h.limiters with hl | ⟨limiter, hl⟩
  · simp [inUse, hl]
  · obtain ⟨hc, -⟩ := h.kinds _ (List.mem_map_of_mem (hl ▸ List.mem_singleton_self limiter))
    have hle := limiter.slots.taken_le
    rw [inUse_single hl]
    exact hc ▸ hle

/-- While the settings stay, whatever happened before: the slots that are taken are those held from
outside and those of the requests that run, and no more than there are. A request that comes is turned
down for what it says, and then whatever goes on, or because all slots are taken, or gets one of them;
and each request that ends gives one back, however it ends. -/
theorem run_conserves {events : List Event} (hf : ∀ event ∈ events, event.Fixed capacity)
    (hr : run {} events = some traffic) :
    traffic.inUse = traffic.held.length + traffic.running.length ∧ traffic.inUse ≤ capacity ∧
    (∀ context operation body, context.settings.Fixed capacity →
      ∃ after response, traffic.arrive context operation body = some (after, response) ∧
        Served capacity traffic context operation body after response) ∧
    ∀ index timing conclusion, index < traffic.running.length →
      ∃ after response, traffic.finish index timing conclusion = some (after, response) ∧
        after.inUse + 1 = traffic.inUse ∧ after.held = traffic.held ∧
        after.running = traffic.running.eraseIdx index ∧
        (response.reply = none ↔ conclusion = .abandoned) ∧
        ∀ reply ∈ response.reply, reply.status ∈ [200, 408, 500] := by
  obtain ⟨hconserved, hsteady⟩ := steady_run hf hr
  refine ⟨hconserved.inUse, hsteady.inUse_le, ?_, ?_⟩
  · intro context operation body hfixed
    obtain ⟨after, response, harrive, -, hserved⟩ :=
      arrive_served hconserved hsteady hfixed operation body
    exact ⟨after, response, harrive, hserved⟩
  · intro index timing conclusion hlt
    obtain ⟨limiters, hfinish, hafter, -⟩ :=
      conserved_finish hconserved (List.getElem?_eq_getElem hlt) timing conclusion
    obtain ⟨hnone, hstatus⟩ := ended_status
      { traffic.running[index] with context := { traffic.running[index].context with timing } } conclusion
    refine ⟨_, _, hfinish, ?_, rfl, rfl, hnone, hstatus⟩
    have hlength := List.length_eraseIdx_of_lt hlt
    rw [hafter.inUse, hconserved.inUse]
    dsimp only
    omega

/-- A service with two slots. -/
def pair : Context where
  settings := .ofVariables [("NAMEKEY_MAX_CONCURRENCY".toList, ['2'])]
  files := ⟨[]⟩
  slots := .held 2 0
  requestId := []

/-- A request for the segments of an empty key. -/
def emptyKey : Bytes := Utf8.encode "\x7b\"key\":\"\"\x7d".toList

theorem run_conserves_pair :
    ∃ traffic, run {} [.hold pair.settings, .arrive pair .parse emptyKey] = some traffic ∧
      traffic.inUse = 2 ∧
      (∃ after response, traffic.arrive pair .parse emptyKey = some (after, response) ∧
        response.reply.map Reply.status = some 429) ∧
      ∃ after response, traffic.finish 0 {} .late = some (after, response) ∧ after.inUse = 1 := by
  have hfixed : pair.settings.Fixed 2 := ⟨by decide +kernel, by decide +kernel⟩
  have hplan : (Plan.task pair.settings pair.files .parse emptyKey).toOption.isSome = true := by
    decide +kernel
  have hrun : (run {} [.hold pair.settings, .arrive pair .parse emptyKey]).map
      (fun traffic => (traffic.held.length, traffic.running.length)) = some (1, 1) := by
    decide +kernel
  obtain ⟨traffic, hrun, hlengths⟩ := Option.map_eq_some_iff.1 hrun
  obtain ⟨hheld, hrunning⟩ := Prod.mk.inj hlengths
  have hevents : ∀ event ∈ [Event.hold pair.settings, .arrive pair .parse emptyKey],
      event.Fixed 2 := by simp [Event.Fixed, hfixed]
  obtain ⟨huse, -, harrive, hfinish⟩ := run_conserves hevents hrun
  refine ⟨traffic, hrun, by omega, ?_, ?_⟩
  · obtain ⟨after, response, harrive, hserved⟩ := harrive pair .parse emptyKey hfixed
    refine ⟨after, response, harrive, ?_⟩
    cases hserved with
    | invalid hfault _ =>
      rw [hfault] at hplan
      cases hplan
    | busy _ _ _ _ _ hreply hstatus => rw [hreply, Option.map_some, hstatus]
    | started _ hfree => omega
  · obtain ⟨after, response, hfinish, hless, -⟩ := hfinish 0 {} .late (by omega)
    exact ⟨after, response, hfinish, by omega⟩

/-! ## One request after another -/

/-- How a request ends by what its worker makes of it. -/
inductive Ends (context : Context) : Except Failure Answer → Conclusion → Prop where
  | answered (answer : Answer) : Ends context (.ok answer) (.answered answer)
  | late : Ends context (.error (.late context.settings.timeout)) .late
  | broken (message : Text) : Ends context (.error (.broken message)) (.broken message)

theorem work_ends (context : Context) (task : Task) :
    ∃ conclusion, Ends context (context.work task) conclusion := by
  unfold Context.work
  split
  · exact ⟨_, .broken _⟩
  · split
    · exact ⟨_, .late⟩
    · cases task.run with
      | ok answer => exact ⟨_, .answered answer⟩
      | error fault => exact ⟨_, .broken _⟩

theorem respond_start (context : Context) (operation : Operation) (exchange : Exchange)
    (slots : Slots) (entry : LogEntry) :
    let written := context.ensureWritten operation.path
      { exchange with log := entry :: exchange.log, slots }
    (context.respond operation exchange).reply = some written.reply ∧
      written.log = entry :: (context.respond operation exchange).log := by
  dsimp only
  rw [respond_eq, Context.ensureWritten]
  split <;> simp

/-- What is told of a request at its end, after its start was logged. -/
theorem ended_runHolding {conclusion : Conclusion} (operation : Operation) (place : Nat) (slots : Slots)
    (h : Ends context (context.work task) conclusion) :
    let job : Job := { context, operation, task, limiter := place }
    let written := context.ensureWritten operation.path (context.runHolding slots operation task)
    (job.ended conclusion).reply = some written.reply ∧
      written.log = job.started.log ++ (job.ended conclusion).log := by
  dsimp only
  rw [Context.runHolding]
  generalize context.work task = result at h
  cases h with
  | answered answer => exact respond_start context operation ⟨⟨200, answer.toJson⟩, [_], context.slots⟩ _ _
  | late => exact respond_start context operation (context.fail operation _ _) _ _
  | broken message => exact respond_start context operation (context.fail operation _ _) _ _

/-- A request that meets no other is answered as by the service alone, and leaves the slots as they
were. -/
theorem arrive_finish (h : traffic.Conserved)
    (hplace : traffic.limiters.getLast? = some ⟨context.slots, context.settings.queueTimeout⟩)
    (hc : context.slots.capacity = context.settings.capacity)
    (hzero : context.settings.queueTimeout.isZero = true) (operation : Operation) (body : Bytes) :
    let exchange := context.answer "POST".toList operation.path body
    traffic.arrive context operation body = some (traffic, ⟨some exchange.reply, exchange.log⟩) ∨
    ∃ task started told conclusion rest,
      Plan.task context.settings context.files operation body = .ok task ∧
      traffic.arrive context operation body = some (started, told) ∧
      Ends context (context.work task) conclusion ∧
      started.finish traffic.running.length context.timing conclusion = some (traffic, rest) ∧
      rest.reply = some exchange.reply ∧ exchange.log = told.log ++ rest.log := by
  dsimp only
  rw [Context.answer_operation, Context.perform]
  cases hplan : Plan.task context.settings context.files operation body with
  | error fault =>
    left
    cases fault <;> simp [arrive, hplan, Context.respond, PlanFault.failure]
  | ok task =>
    have hready : traffic.ready context.settings = traffic := by
      simp [ready, hplace, Limiter.fits, hc, equals_of_isZero hzero hzero]
    have hlimiter : traffic.limiters[traffic.current]? =
        some ⟨context.slots, context.settings.queueTimeout⟩ := by
      rw [← hplace, List.getLast?_eq_getElem?, current]
    have hpatient : Limiter.isPatient ⟨context.slots, context.settings.queueTimeout⟩ = false := by
      simp [Limiter.isPatient, hzero]
    rcases arrive_task hplan (by rw [hready, hlimiter]) hpatient with
      ⟨started, hfree, hstart, harrive⟩ | ⟨hfull, harrive⟩
    · right
      obtain ⟨slots, hacquire⟩ := Context.acquire?_eq hfree
      rw [hready] at hstart
      obtain ⟨limiters, rfl, hstarted, hkinds⟩ := conserved_start h hstart
      obtain ⟨conclusion, hends⟩ := work_ends context task
      obtain ⟨limiters', hfinish, hafter, hkinds'⟩ := conserved_finish hstarted
        (List.getElem?_concat_length ..) context.timing conclusion
      simp only [List.eraseIdx_append_of_length_le (Nat.le_refl _), Nat.sub_self, List.eraseIdx_zero,
        List.tail_cons, List.append_nil] at hfinish hafter
      obtain rfl := balanced_unique hafter h (hkinds'.trans hkinds)
      obtain ⟨hreply, hlog⟩ := ended_runHolding operation traffic.current slots hends
      rw [hready] at harrive
      simp only [hacquire]
      exact ⟨task, _, _, conclusion, _, rfl, harrive, hends, hfinish, hreply, hlog⟩
    · left
      have hacquire : context.slots.acquire? = none := by
        rw [Slots.acquire?, dif_neg (by dsimp only at hfull; omega)]
      simp only [hacquire]
      rw [harrive, hready]
      rfl

end Traffic

end NameSlots.Service
