import Mathlib.Data.List.Nodup
import ServoLink.EventBus

/-!
# Event bus — what every subscriber receives, and what is counted as lost

A run is a list of steps, in any order.  An event is published when it is published at once, or when
the dispatcher takes it from its queue.  It is offered to every subscriber, and one that is full
misses it.

* `EventBus.Sound` — the invariant of every run;
* `EventBus.follow` — one subscriber, step by step: what it has received and what it holds is what it
  was offered and did not miss;
* `EventBus.dropped_run` — the count of lost events;
* `EventBus.Mirrors` — a bus and one on which a subscriber is alone;
* `EventBus.fans_out` — every run.
-/

namespace ServoLink
namespace EventBus

/-! ## Runs -/

inductive Step where
  | subscribe
  | publish (event : Event)
  /-- An event is put into the queue of the dispatcher. -/
  | send (event : Event)
  | dispatch
  /-- A subscriber receives so many events, or all that it holds. -/
  | receive (id count : Nat)
  /-- The receiver of a subscriber is dropped. -/
  | unsubscribe (id : Nat)
  deriving DecidableEq, Repr

def perform (bus : EventBus) : Step → EventBus
  | .subscribe => bus.subscribe.2
  | .publish event => bus.publish event
  | .send event => bus.send event
  | .dispatch => bus.dispatch
  | .receive id count => (bus.receive id count).2
  | .unsubscribe id => bus.unsubscribe id

def run (bus : EventBus) (steps : List Step) : EventBus := steps.foldl perform bus

/-! ### What is seen of a run -/

/-- What is seen step by step, in order. -/
def seen {α : Type} (observe : EventBus → Step → List α) : EventBus → List Step → List α
  | _, [] => []
  | bus, step :: rest => observe bus step ++ seen observe (bus.perform step) rest

/-- The event that a step publishes. -/
def published (bus : EventBus) : Step → List Event
  | .publish event => [event]
  | .dispatch => bus.queue.take 1
  | _ => []

/-- The event that the queue of the dispatcher refuses. -/
def refused (bus : EventBus) : Step → List Event
  | .send event => if bus.queue.length < queueCapacity then [] else [event]
  | _ => []

/-- The events that a subscriber receives. -/
def received (id : Nat) (bus : EventBus) : Step → List Event
  | .receive i count => if i = id then (bus.receive i count).1.getD [] else []
  | _ => []

/-- The receiver of the subscriber exists, and as many events are pending for it as it can hold. -/
def isFullFor (bus : EventBus) (id : Nat) : Bool :=
  bus.subscribers.any fun s => s.id == id && s.held && s.isFull

/-- A published event, as it is offered to a subscriber. -/
structure Offer where
  event : Event
  /-- The subscriber is full. -/
  missed : Bool
  deriving DecidableEq, Repr

def offered (id : Nat) (bus : EventBus) (step : Step) : List Offer :=
  (bus.published step).map fun event => ⟨event, bus.isFullFor id⟩

def missed (id : Nat) (bus : EventBus) (step : Step) : List Offer :=
  (bus.offered id step).filter (·.missed)

/-- The events of the offers that were not missed. -/
def kept (offers : List Offer) : List Event := (offers.filter fun o => !o.missed).map (·.event)

section Seen

variable {α : Type} (observe : EventBus → Step → List α) (bus : EventBus)

@[simp] theorem run_nil : bus.run [] = bus := rfl

@[simp] theorem run_cons (step : Step) (rest : List Step) :
    bus.run (step :: rest) = (bus.perform step).run rest := rfl

theorem run_append (first second : List Step) :
    bus.run (first ++ second) = (bus.run first).run second := List.foldl_append

@[simp] theorem seen_nil : seen observe bus [] = [] := rfl

@[simp] theorem seen_cons (step : Step) (rest : List Step) :
    seen observe bus (step :: rest) = observe bus step ++ seen observe (bus.perform step) rest := rfl

theorem seen_append (first second : List Step) :
    seen observe bus (first ++ second) =
      seen observe bus first ++ seen observe (bus.run first) second := by
  induction first generalizing bus with
  | nil => rfl
  | cons step rest ih => rw [List.cons_append, seen_cons, seen_cons, run_cons, ih, List.append_assoc]

section If

variable (p : Prop) [Decidable p] (step : Step)

theorem run_if :
    bus.run (if p then [step] else []) = if p then bus.perform step else bus := by
  split
  · rfl
  · rfl

theorem seen_if : seen observe bus (if p then [step] else []) =
    if p then observe bus step else [] := by
  split
  · exact List.append_nil _
  · rfl

end If

/-- Every published event is offered once, in order. -/
theorem map_event_offered (id : Nat) (steps : List Step) :
    (seen (offered id) bus steps).map (·.event) = seen published bus steps := by
  induction steps generalizing bus with
  | nil => rfl
  | cons step rest ih => simp [offered, ih, Function.comp_def]

theorem kept_append (first second : List Offer) : kept (first ++ second) = kept first ++ kept second := by
  simp [kept]

end Seen

/-! ## Soundness -/

/-- Subscribers are told apart by their numbers, and hold no more than they can. -/
structure Sound (bus : EventBus) : Prop where
  distinct : (bus.subscribers.map (·.id)).Nodup
  fresh : ∀ s ∈ bus.subscribers, s.id < bus.nextId
  bounded : ∀ s ∈ bus.subscribers, s.pending.length ≤ subscriberCapacity

@[simp] theorem id_offer (event : Event) (s : Subscriber) : (s.offer event).id = s.id := by
  unfold Subscriber.offer
  split <;> rfl

@[simp] theorem held_offer (event : Event) (s : Subscriber) : (s.offer event).held = s.held := by
  unfold Subscriber.offer
  split <;> rfl

theorem length_offer {s : Subscriber} (h : s.pending.length ≤ subscriberCapacity) (event : Event) :
    (s.offer event).pending.length ≤ subscriberCapacity := by
  unfold Subscriber.offer
  split
  · exact h
  · rename_i hroom
    simp only [Subscriber.isFull, decide_eq_true_eq, Nat.not_le] at hroom
    simp only [List.length_append, List.length_singleton]
    exact hroom

section Sound

variable {bus : EventBus}

theorem Sound.eq_of_id (h : bus.Sound) {s t : Subscriber} (hs : s ∈ bus.subscribers)
    (ht : t ∈ bus.subscribers) (hid : s.id = t.id) : s = t :=
  List.inj_on_of_nodup_map h.distinct hs ht hid

theorem sound_empty : Sound {} := ⟨List.nodup_nil, by rintro s ⟨⟩, by rintro s ⟨⟩⟩

/-- Subscribers keep their numbers when each of them changes on its own. -/
theorem Sound.update (h : bus.Sound) (after : EventBus) (keep : Subscriber → Bool)
    (change : Subscriber → Subscriber)
    (hsubscribers : after.subscribers = (bus.subscribers.filter keep).map change)
    (hnext : after.nextId = bus.nextId) (hid : ∀ s, (change s).id = s.id)
    (hbounded : ∀ s, s.pending.length ≤ subscriberCapacity →
      (change s).pending.length ≤ subscriberCapacity) : after.Sound where
  distinct := by
    have hsame : after.subscribers.map (·.id) = (bus.subscribers.filter keep).map (·.id) := by
      rw [hsubscribers, List.map_map]
      exact List.map_congr_left fun s _ => hid s
    rw [hsame]
    exact (List.filter_sublist.map _).nodup h.distinct
  fresh := by
    intro s hs
    rw [hsubscribers] at hs
    obtain ⟨before, hbefore, rfl⟩ := List.mem_map.1 hs
    rw [hid, hnext]
    exact h.fresh before (List.mem_of_mem_filter hbefore)
  bounded := by
    intro s hs
    rw [hsubscribers] at hs
    obtain ⟨before, hbefore, rfl⟩ := List.mem_map.1 hs
    exact hbounded before (h.bounded before (List.mem_of_mem_filter hbefore))

theorem Sound.publish (h : bus.Sound) (event : Event) : (bus.publish event).Sound :=
  h.update (bus.publish event) (·.held) (Subscriber.offer event) rfl rfl (id_offer event)
    fun _ hs => length_offer hs event

theorem Sound.perform (h : bus.Sound) (step : Step) : (bus.perform step).Sound := by
  cases step with
  | subscribe =>
      refine ⟨?_, ?_, ?_⟩
      · show ((bus.subscribers ++ [({ id := bus.nextId } : Subscriber)]).map Subscriber.id).Nodup
        rw [List.map_append, List.nodup_append]
        refine ⟨h.distinct, List.nodup_singleton _, ?_⟩
        rintro i hi j hj rfl
        -- The new number is none of those given before.
        obtain ⟨s, hs, hid⟩ := List.mem_map.1 hi
        have hfresh := h.fresh s hs
        have hnew := List.mem_singleton.1 hj
        dsimp only at hnew
        omega
      · intro s hs
        show s.id < bus.nextId + 1
        rcases List.mem_append.1 hs with hold | hnew
        · exact Nat.lt_succ_of_lt (h.fresh s hold)
        · rw [List.mem_singleton.1 hnew]
          exact Nat.lt_succ_self _
      · intro s hs
        rcases List.mem_append.1 hs with hold | hnew
        · exact h.bounded s hold
        · rw [List.mem_singleton.1 hnew]
          exact Nat.zero_le _
  | publish event => exact h.publish event
  | send event =>
      show (bus.send event).Sound
      unfold send
      split
      · exact ⟨h.distinct, h.fresh, h.bounded⟩
      · exact ⟨h.distinct, h.fresh, h.bounded⟩
  | dispatch =>
      show bus.dispatch.Sound
      unfold dispatch
      split
      · exact h
      · rename_i event rest _
        have hrest : Sound { bus with queue := rest } := ⟨h.distinct, h.fresh, h.bounded⟩
        exact hrest.publish event
  | receive id count =>
      refine h.update (bus.receive id count).2 (fun _ => true)
        (fun s => if s.id = id && s.held then { s with pending := s.pending.drop count } else s)
        (by rw [List.filter_true]; rfl) rfl ?_ ?_
      · intro s
        split <;> rfl
      · intro s hs
        split
        · exact Nat.le_trans (by simp) hs
        · exact hs
  | unsubscribe id =>
      refine h.update (bus.unsubscribe id) (fun _ => true)
        (fun s => if s.id = id then { s with held := false } else s)
        (by rw [List.filter_true]; rfl) rfl ?_ ?_
      · intro s
        split <;> rfl
      · intro s hs
        split
        · exact hs
        · exact hs

theorem Sound.run (h : bus.Sound) (steps : List Step) : (bus.run steps).Sound := by
  induction steps generalizing bus with
  | nil => exact h
  | cons step rest ih => exact ih (h.perform step)

end Sound

/-! ## One subscriber -/

section Following

variable {bus : EventBus} {id : Nat} {pending : List Event}

/-- A subscriber whose receiver exists is full when as many events are pending as it can hold. -/
theorem Sound.isFullFor_eq (h : bus.Sound) (hmem : ⟨id, true, pending⟩ ∈ bus.subscribers) :
    bus.isFullFor id = Subscriber.isFull ⟨id, true, pending⟩ := by
  -- No other subscriber has the number.
  rw [Bool.eq_iff_iff, isFullFor, List.any_eq_true]
  constructor
  · rintro ⟨s, hs, hfull⟩
    simp only [Bool.and_eq_true, beq_iff_eq] at hfull
    obtain rfl := h.eq_of_id hs hmem hfull.1.1
    exact hfull.2
  · intro hfull
    exact ⟨_, hmem, by simpa using hfull⟩

theorem Sound.find?_eq (h : bus.Sound) (hmem : ⟨id, true, pending⟩ ∈ bus.subscribers) :
    (bus.subscribers.find? fun s => s.id == id && s.held) = some ⟨id, true, pending⟩ := by
  obtain ⟨s, hs⟩ := Option.isSome_iff_exists.1
    (List.find?_isSome.2 ⟨⟨id, true, pending⟩, hmem, by simp⟩ :
      (bus.subscribers.find? fun s => s.id == id && s.held).isSome)
  have hfound := List.find?_some hs
  simp only [Bool.and_eq_true, beq_iff_eq] at hfound
  rw [hs, h.eq_of_id (List.mem_of_find?_eq_some hs) hmem hfound.1]

/-- What is pending once an event was offered. -/
theorem Sound.mem_publish (h : bus.Sound) (hmem : ⟨id, true, pending⟩ ∈ bus.subscribers)
    (event : Event) :
    ⟨id, true, pending ++ kept [⟨event, bus.isFullFor id⟩]⟩ ∈ (bus.publish event).subscribers := by
  have hoffer : Subscriber.offer event ⟨id, true, pending⟩ =
      ⟨id, true, pending ++ kept [⟨event, bus.isFullFor id⟩]⟩ := by
    rw [h.isFullFor_eq hmem]
    unfold Subscriber.offer kept
    cases Subscriber.isFull ⟨id, true, pending⟩ with
    | true => simp
    | false => simp
  rw [← hoffer]
  exact List.mem_map_of_mem (List.mem_filter.2 ⟨hmem, rfl⟩)

/-- One step of a subscriber whose receiver is not dropped: what it receives and what is pending
after the step is what was pending, and the events it was offered and did not miss. -/
theorem Sound.follow_step (h : bus.Sound) (hmem : ⟨id, true, pending⟩ ∈ bus.subscribers)
    {step : Step} (hstep : step ≠ .unsubscribe id) :
    ∃ after, ⟨id, true, after⟩ ∈ (bus.perform step).subscribers
      ∧ bus.received id step ++ after = pending ++ kept (bus.offered id step) := by
  have hnothing : pending = pending ++ kept [] := (List.append_nil _).symm
  cases step with
  | subscribe => exact ⟨pending, List.mem_append_left _ hmem, hnothing⟩
  | publish event => exact ⟨_, h.mem_publish hmem event, rfl⟩
  | send event =>
      refine ⟨pending, ?_, hnothing⟩
      show _ ∈ (bus.send event).subscribers
      unfold send
      split
      · exact hmem
      · exact hmem
  | dispatch =>
      show ∃ after, _ ∈ bus.dispatch.subscribers ∧ _ = pending ++ kept ((bus.queue.take 1).map _)
      unfold dispatch
      cases hqueue : bus.queue with
      | nil => exact ⟨pending, hmem, hnothing⟩
      | cons event rest => exact ⟨_, h.mem_publish hmem event, rfl⟩
  | receive i count =>
      by_cases hi : i = id
      · subst hi
        refine ⟨pending.drop count, ?_, ?_⟩
        · exact List.mem_map.2 ⟨_, hmem, by simp⟩
        · show (if i = i then _ else []) ++ _ = _
          rw [if_pos rfl, receive, h.find?_eq hmem]
          exact (List.take_append_drop count pending).trans hnothing
      · refine ⟨pending, ?_, ?_⟩
        · exact List.mem_map.2 ⟨_, hmem, by simp [Ne.symm hi]⟩
        · show (if i = id then _ else []) ++ _ = _
          rw [if_neg hi]
          exact hnothing
  | unsubscribe i =>
      have hi : i ≠ id := fun heq => hstep (congrArg Step.unsubscribe heq)
      exact ⟨pending, List.mem_map.2 ⟨_, hmem, by simp [Ne.symm hi]⟩, hnothing⟩

/-- Throughout a run. -/
theorem Sound.follow (h : bus.Sound) (hmem : ⟨id, true, pending⟩ ∈ bus.subscribers)
    {steps : List Step} (hsteps : .unsubscribe id ∉ steps) :
    ∃ after, ⟨id, true, after⟩ ∈ (bus.run steps).subscribers
      ∧ seen (received id) bus steps ++ after = pending ++ kept (seen (offered id) bus steps) := by
  -- On the steps; what is pending in between is received or pending later.
  induction steps generalizing bus pending with
  | nil => exact ⟨pending, hmem, (List.append_nil _).symm⟩
  | cons step rest ih =>
      rw [List.mem_cons, not_or] at hsteps
      obtain ⟨between, hbetween, hfirst⟩ := h.follow_step hmem (Ne.symm hsteps.1)
      obtain ⟨after, hafter, hrest⟩ := ih (h.perform step) hbetween hsteps.2
      refine ⟨after, hafter, ?_⟩
      rw [seen_cons, seen_cons, List.append_assoc, hrest, ← List.append_assoc, hfirst, kept_append,
        List.append_assoc]

end Following

/-! ## Losses -/

/-- The subscribers that miss what is published. -/
def full (bus : EventBus) : List Subscriber := bus.subscribers.filter fun s => s.held && s.isFull

section Losses

variable {bus : EventBus} {n : Nat}

theorem dropped_publish (event : Event) (bus : EventBus) :
    (bus.publish event).dropped = bus.dropped + bus.full.length := by
  show bus.dropped + ((bus.subscribers.filter (·.held)).filter (·.isFull)).length = _
  rw [List.filter_filter]
  simp only [full, Bool.and_comm]

/-- What is counted in a step: the deliveries missed, and the event refused. -/
theorem dropped_perform (bus : EventBus) (step : Step) :
    (bus.perform step).dropped = bus.dropped + (bus.published step).length * bus.full.length
      + (bus.refused step).length := by
  cases step with
  | publish event => simp [perform, published, refused, dropped_publish]
  | send event =>
      by_cases hroom : bus.queue.length < queueCapacity
      · simp [perform, published, refused, send, hroom]
      · simp [perform, published, refused, send, hroom]
  | dispatch =>
      cases hqueue : bus.queue with
      | nil => simp [perform, published, refused, dispatch, hqueue]
      | cons event rest =>
          have hdropped : ({ bus with queue := rest }.publish event).dropped =
              bus.dropped + bus.full.length := dropped_publish event { bus with queue := rest }
          simpa [perform, published, refused, dispatch, hqueue] using hdropped
  | _ => simp [perform, published, refused, subscribe, receive, unsubscribe]

/-- The numbers of the full subscribers. -/
theorem Sound.perm_full (h : bus.Sound) (hn : bus.nextId ≤ n) :
    ((List.range n).filter bus.isFullFor).Perm (bus.full.map (·.id)) := by
  have hdistinct : (bus.full.map (·.id)).Nodup :=
    ((List.filter_sublist).map _).nodup h.distinct
  rw [List.perm_ext_iff_of_nodup (List.nodup_range.filter _) hdistinct]
  intro id
  simp only [List.mem_filter, List.mem_range, isFullFor, List.any_eq_true, List.mem_map, full,
    Bool.and_eq_true, beq_iff_eq]
  constructor
  · rintro ⟨-, s, hs, ⟨rfl, hheld⟩, hfull⟩
    exact ⟨s, ⟨hs, hheld, hfull⟩, rfl⟩
  · rintro ⟨s, ⟨hs, hheld, hfull⟩, rfl⟩
    exact ⟨Nat.lt_of_lt_of_le (h.fresh s hs) hn, s, hs, ⟨rfl, hheld⟩, hfull⟩

theorem length_flatMap_append {α β : Type} (l : List α) (f g : α → List β) :
    (l.flatMap fun a => f a ++ g a).length = (l.flatMap f).length + (l.flatMap g).length := by
  induction l with
  | nil => rfl
  | cons a l ih =>
      simp only [List.flatMap_cons, List.length_append, ih]
      omega

theorem length_flatMap_if {α β : Type} (l : List α) (p : α → Bool) (f : α → β) :
    (l.flatMap fun a => if p a then [f a] else []).length = (l.filter p).length := by
  induction l with
  | nil => rfl
  | cons a l ih =>
      rw [List.flatMap_cons, List.length_append, ih, List.filter_cons]
      cases p a with
      | true => simp [Nat.add_comm]
      | false => simp

/-- The deliveries missed in a step, over all subscribers. -/
theorem Sound.length_missed (h : bus.Sound) (hn : bus.nextId ≤ n) (step : Step) :
    ((List.range n).flatMap fun id => bus.missed id step).length =
      (bus.published step).length * bus.full.length := by
  -- A step publishes one event at most.
  have hpublished : bus.published step = [] ∨ ∃ event, bus.published step = [event] := by
    cases step with
    | publish event => exact Or.inr ⟨event, rfl⟩
    | dispatch =>
        cases hqueue : bus.queue with
        | nil => exact Or.inl (by simp [published, hqueue])
        | cons event rest => exact Or.inr ⟨event, by simp [published, hqueue]⟩
    | _ => exact Or.inl rfl
  rcases hpublished with hnone | ⟨event, hone⟩
  · simp [missed, offered, hnone]
  · -- A subscriber misses it if and only if it is full, whatever its number.
    have hmissed : ∀ id, bus.missed id step =
        if bus.isFullFor id then [(⟨event, bus.isFullFor id⟩ : Offer)] else [] := by
      intro id
      rw [missed, offered, hone]
      cases bus.isFullFor id with
      | true => rfl
      | false => rfl
    simp only [hmissed]
    rw [length_flatMap_if, (h.perm_full hn).length_eq, List.length_map, hone,
      List.length_singleton, Nat.one_mul]

theorem nextId_perform (bus : EventBus) (step : Step) : bus.nextId ≤ (bus.perform step).nextId := by
  cases step with
  | subscribe => exact Nat.le_succ _
  | send event =>
      show _ ≤ (bus.send event).nextId
      unfold send
      split <;> exact Nat.le_refl _
  | dispatch =>
      show _ ≤ bus.dispatch.nextId
      unfold dispatch
      split <;> exact Nat.le_refl _
  | _ => exact Nat.le_refl _

theorem nextId_run (bus : EventBus) (steps : List Step) : bus.nextId ≤ (bus.run steps).nextId := by
  induction steps generalizing bus with
  | nil => exact Nat.le_refl _
  | cons step rest ih => exact Nat.le_trans (bus.nextId_perform step) (ih _)

/-- What is counted in a run. -/
theorem Sound.dropped_run (h : bus.Sound) (steps : List Step) (hn : (bus.run steps).nextId ≤ n) :
    (bus.run steps).dropped = bus.dropped
      + ((List.range n).flatMap fun id => seen (missed id) bus steps).length
      + (seen refused bus steps).length := by
  -- On the steps; `n` is above every number given by the end.
  induction steps generalizing bus with
  | nil => simp
  | cons step rest ih =>
      have hstep : bus.nextId ≤ n :=
        Nat.le_trans (bus.nextId_run (step :: rest)) hn
      simp only [run_cons, seen_cons]
      rw [ih (h.perform step) hn, dropped_perform, length_flatMap_append, h.length_missed hstep,
        List.length_append]
      omega

end Losses

/-! ## A subscriber alone -/

/-- What is left of a step without the other subscribers; the one that stays has the number zero. -/
def own (id : Nat) (bus : EventBus) : Step → List Step
  | .subscribe => if bus.nextId = id then [.subscribe] else []
  | .receive i count => if i = id then [.receive 0 count] else []
  | .unsubscribe i => if i = id then [.unsubscribe 0] else []
  | step => [step]

/-- The same run without the other subscribers. -/
def alone (id : Nat) (steps : List Step) : List Step := seen (own id) {} steps

/-- On the second bus the subscriber is alone. -/
structure Mirrors (id : Nat) (bus lone : EventBus) : Prop where
  queue : lone.queue = bus.queue
  subscribers : lone.subscribers =
    (bus.subscribers.filter (·.id = id)).map fun s => { s with id := 0 }
  nextId : bus.nextId ≤ id → lone.nextId = 0

section Mirrors

variable {id : Nat} {bus lone : EventBus}

theorem offer_withId (event : Event) (s : Subscriber) (id : Nat) :
    Subscriber.offer event { s with id } = { s.offer event with id } := by
  unfold Subscriber.offer Subscriber.isFull
  dsimp only
  split
  · rfl
  · rfl

theorem Mirrors.publish (h : Mirrors id bus lone) (event : Event) :
    Mirrors id (bus.publish event) (lone.publish event) where
  queue := h.queue
  subscribers := by
    show (lone.subscribers.filter (·.held)).map (Subscriber.offer event) =
      (((bus.subscribers.filter (·.held)).map (Subscriber.offer event)).filter (·.id = id)).map _
    rw [h.subscribers, List.filter_map, List.filter_map, List.map_map, List.map_map,
      List.filter_filter, List.filter_filter]
    simp only [Function.comp_def, id_offer, offer_withId, Bool.and_comm]
  nextId := h.nextId

/-- Changing the subscriber with a number, on either bus. -/
theorem Mirrors.change (h : Mirrors id bus lone) (i : Nat) (change : Subscriber → Subscriber)
    (hid : ∀ s, (change s).id = s.id)
    (hchange : ∀ s : Subscriber, change { s with id := 0 } = { change s with id := 0 }) :
    Mirrors id
      { bus with subscribers := bus.subscribers.map fun s => if s.id = i then change s else s }
      (if i = id then { lone with
        subscribers := lone.subscribers.map fun s => if s.id = 0 then change s else s } else lone)
      where
  queue := by
    split
    · exact h.queue
    · exact h.queue
  subscribers := by
    have hkept : ∀ s : Subscriber,
        decide ((if s.id = i then change s else s).id = id) = decide (s.id = id) := by
      intro s
      split
      · rw [hid]
      · rfl
    rw [List.filter_map, List.map_map]
    simp only [Function.comp_def, hkept]
    split
    · -- The subscriber that stays changes on both buses.
      rename_i hi
      subst hi
      show lone.subscribers.map _ = _
      rw [h.subscribers, List.map_map]
      refine List.map_congr_left fun s hs => ?_
      have hs := of_decide_eq_true (List.mem_filter.1 hs).2
      simp [hs, hchange]
    · -- Another one changes, and is not on the second bus.
      rename_i hi
      rw [h.subscribers]
      refine List.map_congr_left fun s hs => ?_
      have hs := of_decide_eq_true (List.mem_filter.1 hs).2
      simp [hs, Ne.symm hi]
  nextId := by
    split
    · exact h.nextId
    · exact h.nextId

/-- A new subscriber is the one that stays if its number says so. -/
theorem Mirrors.subscribe (h : Mirrors id bus lone) :
    Mirrors id bus.subscribe.2 (if bus.nextId = id then lone.subscribe.2 else lone) := by
  by_cases hid : bus.nextId = id
  · rw [if_pos hid]
    refine ⟨h.queue, ?_, fun hle => absurd hle ?_⟩
    · show lone.subscribers ++ [({ id := lone.nextId } : Subscriber)] =
        ((bus.subscribers ++ [({ id := bus.nextId } : Subscriber)]).filter (·.id = id)).map _
      rw [h.nextId (Nat.le_of_eq hid), h.subscribers, List.filter_append, List.map_append]
      simp [hid]
    · show ¬ bus.nextId + 1 ≤ id
      omega
  · rw [if_neg hid]
    refine ⟨h.queue, ?_, fun hle => h.nextId (Nat.le_of_succ_le hle)⟩
    show _ = ((bus.subscribers ++ [({ id := bus.nextId } : Subscriber)]).filter (·.id = id)).map _
    rw [h.subscribers, List.filter_append, List.map_append]
    simp [hid]

theorem Mirrors.send (h : Mirrors id bus lone) (event : Event) :
    Mirrors id (bus.send event) (lone.send event) := by
  unfold EventBus.send
  rw [h.queue]
  split
  · exact ⟨rfl, h.subscribers, h.nextId⟩
  · exact ⟨rfl, h.subscribers, h.nextId⟩

theorem Mirrors.dispatch (h : Mirrors id bus lone) : Mirrors id bus.dispatch lone.dispatch := by
  unfold EventBus.dispatch
  rw [h.queue]
  cases hqueue : bus.queue with
  | nil => exact h
  | cons event rest =>
      have hrest : Mirrors id { bus with queue := rest } { lone with queue := rest } :=
        ⟨rfl, h.subscribers, h.nextId⟩
      exact hrest.publish event

/-- Receiving, as a change of the subscriber with that number. -/
theorem receive_eq (i count : Nat) (bus : EventBus) : (bus.receive i count).2 =
    { bus with subscribers := bus.subscribers.map fun s =>
        if s.id = i then if s.held then { s with pending := s.pending.drop count } else s else s } := by
  have hsame : ∀ s : Subscriber,
      (if s.id = i && s.held then { s with pending := s.pending.drop count } else s) =
        if s.id = i then if s.held then { s with pending := s.pending.drop count } else s else s := by
    intro s
    by_cases hi : s.id = i
    · simp [hi]
    · simp [hi]
  simp only [receive, hsame]

theorem Mirrors.receive (h : Mirrors id bus lone) (i count : Nat) :
    Mirrors id (bus.receive i count).2 (if i = id then (lone.receive 0 count).2 else lone) := by
  rw [receive_eq, receive_eq]
  refine h.change i
    (fun s => if s.held then { s with pending := s.pending.drop count } else s) ?_ ?_
  · intro s
    split <;> rfl
  · intro s
    dsimp only
    split <;> rfl

theorem Mirrors.unsubscribe (h : Mirrors id bus lone) (i : Nat) :
    Mirrors id (bus.unsubscribe i) (if i = id then lone.unsubscribe 0 else lone) :=
  h.change i (fun s => { s with held := false }) (fun _ => rfl) (fun _ => rfl)

/-- Both receive the same. -/
theorem Mirrors.received (h : Mirrors id bus lone) (count : Nat) :
    (lone.receive 0 count).1 = (bus.receive id count).1 := by
  show (lone.subscribers.find? _).map _ = (bus.subscribers.find? _).map _
  rw [h.subscribers, List.find?_map, List.find?_filter, Option.map_map]
  have hsame : (fun s : Subscriber => decide (decide (s.id = id) = true ∧ s.held = true)) =
      fun s => s.id == id && s.held := by
    funext s
    rw [Bool.eq_iff_iff]
    simp
  simp only [Function.comp_def, beq_self_eq_true, Bool.true_and, hsame]

/-- Every step is one of the subscriber that stays, or nothing to it. -/
theorem Mirrors.step (h : Mirrors id bus lone) (step : Step) :
    Mirrors id (bus.perform step) (lone.run (bus.own id step))
      ∧ bus.received id step = seen (EventBus.received 0) lone (bus.own id step) := by
  cases step with
  | subscribe =>
      simp only [own, run_if, seen_if]
      exact ⟨h.subscribe, (ite_self _).symm⟩
  | publish event => exact ⟨h.publish event, rfl⟩
  | send event => exact ⟨h.send event, rfl⟩
  | dispatch => exact ⟨h.dispatch, rfl⟩
  | receive i count =>
      simp only [own, run_if, seen_if]
      refine ⟨h.receive i count, ?_⟩
      by_cases hi : i = id
      · subst hi
        simp only [EventBus.received, if_pos, h.received]
      · simp only [EventBus.received, if_neg hi]
  | unsubscribe i =>
      simp only [own, run_if, seen_if]
      exact ⟨h.unsubscribe i, (ite_self _).symm⟩

/-- Throughout a run. -/
theorem Mirrors.run (h : Mirrors id bus lone) (steps : List Step) :
    Mirrors id (bus.run steps) (lone.run (seen (own id) bus steps))
      ∧ seen (EventBus.received id) bus steps =
        seen (EventBus.received 0) lone (seen (own id) bus steps) := by
  -- On the steps of the first bus; the second takes none or one for each.
  induction steps generalizing bus lone with
  | nil => exact ⟨h, rfl⟩
  | cons step rest ih =>
      obtain ⟨hstep, hreceived⟩ := h.step step
      obtain ⟨hrest, hlater⟩ := ih hstep
      simp only [run_cons, seen_cons, run_append, seen_append]
      exact ⟨hrest, by rw [hreceived, hlater]⟩

end Mirrors

/-! ## Every run -/

/-- What holds of a run of a new bus. -/
structure FansOut (steps : List Step) : Prop where
  /-- A subscriber whose receiver was not dropped: every event published since it subscribed was
  offered to it, in order and once, and what it has received and what is pending for it are those
  offered while it was not full. -/
  delivered : ∀ before after since, steps = before ++ .subscribe :: after →
    since = run {} (before ++ [.subscribe]) → .unsubscribe (run {} before).nextId ∉ after →
      ∃ pending, ⟨(run {} before).nextId, true, pending⟩ ∈ (run {} steps).subscribers
        ∧ seen (received (run {} before).nextId) since after ++ pending =
          kept (seen (offered (run {} before).nextId) since after)
        ∧ (seen (offered (run {} before).nextId) since after).map (·.event) =
          seen published since after
  bounded : ∀ s ∈ (run {} steps).subscribers, s.pending.length ≤ 1024
  /-- Every delivery missed by a full subscriber is counted, and every event refused by the queue of
  the dispatcher; nothing else is. -/
  counted : (run {} steps).dropped =
    ((List.range (run {} steps).nextId).flatMap fun id => seen (missed id) {} steps).length
      + (seen refused {} steps).length
  /-- Without the other subscribers a subscriber receives the same, and the same is pending. -/
  isolated : ∀ id, seen (received id) {} steps = seen (received 0) {} (alone id steps)
    ∧ ∀ held pending, ⟨id, held, pending⟩ ∈ (run {} steps).subscribers ↔
      ⟨0, held, pending⟩ ∈ (run {} (alone id steps)).subscribers

theorem delivered_run {before after : List Step} {id : Nat} (hid : (run {} before).nextId = id)
    (hafter : .unsubscribe id ∉ after) :
    ∃ pending, ⟨id, true, pending⟩ ∈ (run {} (before ++ .subscribe :: after)).subscribers
      ∧ seen (received id) (run {} (before ++ [.subscribe])) after ++ pending =
        kept (seen (offered id) (run {} (before ++ [.subscribe])) after) := by
  have hsound : (run {} (before ++ [.subscribe])).Sound := sound_empty.run _
  have hnew : ⟨id, true, []⟩ ∈ (run {} (before ++ [.subscribe])).subscribers := by
    rw [run_append, ← hid]
    exact List.mem_append_right _ List.mem_cons_self
  obtain ⟨pending, hpending, hreceived⟩ := hsound.follow hnew hafter
  refine ⟨pending, ?_, hreceived⟩
  rw [List.append_cons, run_append]
  exact hpending

theorem isolated_run (id : Nat) (steps : List Step) :
    seen (received id) {} steps = seen (received 0) {} (alone id steps)
      ∧ ∀ held pending, ⟨id, held, pending⟩ ∈ (run {} steps).subscribers ↔
        ⟨0, held, pending⟩ ∈ (run {} (alone id steps)).subscribers := by
  have hempty : Mirrors id {} {} := ⟨rfl, rfl, fun _ => rfl⟩
  obtain ⟨hmirrors, hreceived⟩ := hempty.run steps
  refine ⟨hreceived, fun held pending => ?_⟩
  rw [show (run {} (alone id steps)).subscribers = _ from hmirrors.subscribers]
  simp only [List.mem_map, List.mem_filter, decide_eq_true_eq]
  constructor
  · intro hmem
    exact ⟨_, ⟨hmem, rfl⟩, rfl⟩
  · rintro ⟨⟨i, h, p⟩, ⟨hmem, rfl⟩, heq⟩
    cases heq
    exact hmem

/-- Whatever the steps, and in whatever order. -/
theorem fans_out (steps : List Step) : FansOut steps where
  delivered := by
    rintro before after since rfl rfl hafter
    obtain ⟨pending, hpending, hreceived⟩ := delivered_run rfl hafter
    exact ⟨pending, hpending, hreceived, map_event_offered _ _ _⟩
  bounded := (sound_empty.run steps).bounded
  counted := by
    rw [sound_empty.dropped_run steps (Nat.le_refl _)]
    simp
  isolated := fun id => isolated_run id steps

end EventBus
end ServoLink
