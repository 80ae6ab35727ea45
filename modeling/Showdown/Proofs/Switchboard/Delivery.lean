import Showdown.Proofs.Switchboard.Register

/-!
# What a subscription gets

A subscription is looked at from when it is made, whatever happens on the switchboard. It gets what
it would get alone (`seen_run`): of what is done, only the events of its topic and what its owner
does concern it, and what strikes its own number off its own topic. What was received and what is
still unread are all events of its topic that were published while it was registered, each once and
in order, and it is registered until it is given up or struck off, or an event finds it closed or
without room (`faithful_of_run`).
-/

namespace Showdown

/-- The event that was found, if one was. -/
def Receipt.event? : Receipt → Option Event
  | event e => some e
  | _ => none

namespace Subscription

theorem topic_offer (s : Subscription) (e : Event) : (s.offer e).topic = s.topic := by
  unfold offer
  split
  · split <;> rfl
  · rfl

theorem topic_receive (s : Subscription) : s.receive.1.topic = s.topic := by
  unfold receive
  split <;> rfl

/-- After an event of its topic, a subscription is registered if it was, accepts events and had
room. -/
theorem registered_offer {s : Subscription} {e : Event} (covered : s.topic.covers e = true) :
    (s.offer e).registered = (s.registered && !(s.closed || room ≤ s.unread.length)) := by
  cases registered : s.registered with
  | false => simp [offer, registered]
  | true =>
    cases refused : s.closed || decide (room ≤ s.unread.length) <;>
      simp only [offer, registered, covered, refused] <;> rfl

/-- An event of its topic is put in a mailbox if the subscription is still registered then. -/
theorem unread_offer {s : Subscription} {e : Event} (covered : s.topic.covers e = true) :
    (s.offer e).unread =
      s.unread ++ (if (s.offer e).registered then some e else none).toList := by
  simp only [offer, covered, Bool.and_true]
  split
  · split <;> simp_all
  · simp_all

theorem registered_receive (s : Subscription) : s.receive.1.registered = s.registered := by
  unfold receive
  split <;> rfl

/-- What is taken out of a mailbox is the oldest event that was unread. -/
theorem event?_receive (s : Subscription) :
    s.receive.2.event?.toList ++ s.receive.1.unread = s.unread := by
  cases h : s.unread with
  | nil =>
    simp only [receive, h]
    split <;> rfl
  | cons e rest => simp [receive, h, Receipt.event?]

end Subscription

namespace Switchboard

variable {b : Switchboard} {topic : Topic} {id : Nat}

/-! ### A subscription alone -/

/-- Something that concerns one subscription. -/
inductive Concern where
  /-- An event of its topic is published. -/
  | publish (e : Event)
  /-- Its owner takes the oldest unread event, if there is one. -/
  | receive
  /-- Its owner accepts no more events. -/
  | close
  /-- It is struck off. -/
  | unsubscribe
  /-- Its owner gives it up. -/
  | drop

/-- What an action is to a subscription with a topic and a number. -/
def Action.concern? (topic : Topic) (id : Nat) : Action → Option Concern
  | subscribe _ => none
  | publish e => if topic.covers e then some (.publish e) else none
  | receive i => if i = id then some .receive else none
  | close i => if i = id then some .close else none
  | unsubscribe t i => if t = topic ∧ i = id then some .unsubscribe else none
  | drop i => if i = id then some .drop else none

/-- What becomes of a subscription that is alone, and what its owner finds. -/
def Concern.take (c : Concern) (s : Option Subscription) :
    Emission (Option Subscription) Receipt :=
  match c with
  | publish e => .quiet (s.map fun s => s.offer e)
  | receive => ⟨s.map fun s => s.receive.1, [(s.map fun s => s.receive.2).getD .over]⟩
  | close => .quiet (s.map fun s => { s with closed := true })
  | unsubscribe => .quiet (s.map fun s => { s with registered := false })
  | drop => .quiet none

/-- With this, a subscription stops being registered, if it still is: it is given up or struck off,
or an event finds it closed or without room. -/
def Concern.stops (c : Concern) (s : Subscription) : Bool :=
  match c with
  | publish _ => s.closed || Subscription.room ≤ s.unread.length
  | receive | close => false
  | unsubscribe | drop => true

/-- What becomes of a subscription that is alone, one thing after another. -/
def alone : List Concern → Option Subscription → Emission (Option Subscription) Receipt :=
  Emission.forEach Concern.take

/-! ### A subscription among others -/

/-- What the owner of a subscription finds. -/
def receipts (id : Nat) (out : List Found) : List Receipt :=
  out.filterMap fun found => if found.1 = id then some found.2 else none

/-- What is seen of one subscription. -/
def seen (id : Nat) (e : Emission Switchboard Found) : Emission (Option Subscription) Receipt :=
  ⟨e.state.subscription? id, receipts id e.out⟩

theorem seen_andThen (id : Nat) (e : Emission Switchboard Found)
    (f : Switchboard → Emission Switchboard Found) :
    seen id (e.andThen f) = (seen id e).andThen fun _ => seen id (f e.state) := by
  simp [seen, receipts, Emission.andThen]

/-- A subscription with a topic and a number was made on a switchboard. -/
structure Made (topic : Topic) (id : Nat) (b : Switchboard) : Prop where
  /-- Subscriptions are listed as they should be. -/
  sound : Sound b
  /-- The number was given out. -/
  lt : id < b.next
  /-- It was given out for the topic. -/
  topic : ∀ {s}, b.subscription? id = some s → s.topic = topic

/-- What concerns a subscription does not change its topic. -/
theorem topic_take {c : Concern} {s : Option Subscription} {s' : Subscription}
    (h : (c.take s).state = some s') : ∃ t, s = some t ∧ s'.topic = t.topic := by
  cases s with
  | none => cases c <;> cases h
  | some t =>
    refine ⟨t, rfl, ?_⟩
    cases c with
    | publish e => exact Option.some.inj h ▸ t.topic_offer e
    | receive => exact Option.some.inj h ▸ t.topic_receive
    | close | unsubscribe => rw [← Option.some.inj h]
    | drop => cases h

theorem run_cons (a : Action) (acts : List Action) (b : Switchboard) :
    run (a :: acts) b = (act a b).andThen (run acts) := rfl

theorem sound_act (sound : Sound b) (a : Action) : Sound (act a b).state := by
  cases a with
  | subscribe topic => exact sound.subscribe topic
  | publish e => exact sound.publish e
  | receive i => exact sound.receive i
  | close i => exact sound.close i
  | unsubscribe topic i => exact sound.unsubscribe topic i
  | drop i => exact sound.drop i

theorem sound_run (sound : Sound b) (acts : List Action) : Sound (run acts b).state := by
  induction acts generalizing b with
  | nil => exact sound
  | cons a acts ih => exact ih (sound_act sound a)

theorem next_act (a : Action) (b : Switchboard) : b.next ≤ (act a b).state.next := by
  cases a with
  | subscribe topic => exact Nat.le_succ _
  | publish e => exact Nat.le_of_eq (next_publish b e).symm
  | receive i => exact Nat.le_of_eq (next_receive b i).symm
  | close i => exact Nat.le_of_eq (next_close b i).symm
  | unsubscribe topic i => exact Nat.le_of_eq (next_unsubscribe b topic i).symm
  | drop i => exact Nat.le_of_eq (next_drop b i).symm

/-- **An action does to a subscription what it would do to it alone**, or nothing. -/
theorem seen_act (made : Made topic id b) (a : Action) :
    seen id (act a b) = (a.concern? topic id).elim (.quiet (b.subscription? id)) fun c =>
      c.take (b.subscription? id) := by
  have quietly {b' : Switchboard} {s : Option Subscription} (h : b'.subscription? id = s) :
      seen id (.quiet b') = .quiet s := h ▸ rfl
  have spared {f : Subscription → Subscription}
      (h : ∀ s, b.subscription? id = some s → f s = s) :
      (b.subscription? id).map f = b.subscription? id := by
    cases known : b.subscription? id with
    | none => rfl
    | some s => exact congrArg some (h s known)
  cases a with
  | subscribe other =>
    refine quietly ?_
    rw [subscription?_subscribe, if_neg (Nat.ne_of_lt made.lt)]
  | publish e =>
    rw [act, quietly (subscription?_publish made.sound e id), Action.concern?]
    split
    · rfl
    · rename_i elsewhere
      rw [spared fun s known => Subscription.offer_of_spared ?_]
      · rfl
      · simp [made.topic known, elsewhere]
  | receive i =>
    have found : seen id (act (.receive i) b) =
        ⟨(b.receive i).1.subscription? id, receipts id [(i, (b.receive i).2)]⟩ := rfl
    rw [found, subscription?_receive, Action.concern?]
    by_cases own : i = id
    · subst own
      simp [receipts, receipt_receive, Concern.take]
    · simp [receipts, own, Ne.symm own, Emission.quiet]
  | close i =>
    rw [act, quietly (subscription?_close b i id), Action.concern?]
    by_cases own : i = id
    · simp [own, Concern.take]
    · simp [own, Ne.symm own]
  | unsubscribe other i =>
    rw [act, quietly (subscription?_unsubscribe b other i id), Action.concern?]
    split
    · rename_i own
      rw [Option.map_congr fun s known =>
        if_pos ⟨own.2.symm, (made.topic known).trans own.1.symm⟩]
      rfl
    · rename_i elsewhere
      rw [spared fun s known => if_neg fun own =>
        elsewhere ⟨own.2.symm.trans (made.topic known), own.1.symm⟩]
      rfl
  | drop i =>
    rw [act, quietly (subscription?_drop b i id), Action.concern?]
    by_cases own : i = id
    · simp [own, Concern.take]
    · simp [own, Ne.symm own]

theorem made_act (made : Made topic id b) (a : Action) : Made topic id (act a b).state where
  sound := sound_act made.sound a
  lt := Nat.lt_of_lt_of_le made.lt (next_act a b)
  topic {s} known := by
    have now := congrArg Emission.state (seen_act made a)
    rw [show (seen id (act a b)).state = _ from known] at now
    cases concern : a.concern? topic id with
    | none =>
      rw [concern] at now
      exact made.topic now.symm
    | some c =>
      rw [concern] at now
      obtain ⟨s', known', same⟩ := topic_take now.symm
      rw [same, made.topic known']

/-- **A subscription gets what it would get alone**, whatever others there are and however slow they
are. -/
theorem seen_run (made : Made topic id b) (acts : List Action) :
    seen id (run acts b) =
      alone (acts.filterMap (Action.concern? topic id)) (b.subscription? id) := by
  induction acts generalizing b with
  | nil => rfl
  | cons a acts ih =>
    rw [run_cons, seen_andThen, ih (made_act made a)]
    rw [show (act a b).state.subscription? id = (seen id (act a b)).state from rfl, seen_act made]
    cases concern : a.concern? topic id with
    | none => simp [List.filterMap_cons_none concern, Emission.andThen]
    | some c =>
      rw [List.filterMap_cons_some concern]
      rfl

/-! ### What is received -/

/-- The events that the owner of a subscription received, in order. -/
def received (id : Nat) (out : List Found) : List Event :=
  (receipts id out).filterMap Receipt.event?

/-- The event of a topic that is published. -/
def Action.event? (topic : Topic) : Action → Option Event
  | publish e => if topic.covers e then some e else none
  | _ => none

/-- The events of a topic that are published while a subscription is registered, in order. The one at
which it is struck off is not among them. -/
def published (topic : Topic) (id : Nat) : List Action → Switchboard → List Event
  | [], _ => []
  | a :: acts, b =>
    let after := (act a b).state
    (if after.isRegistered id then a.event? topic else none).toList ++ published topic id acts after

/-- With this action, a subscription stops being registered, if it still is. -/
def Action.stops (topic : Topic) (id : Nat) (a : Action) (b : Switchboard) : Bool :=
  match a.concern? topic id, b.subscription? id with
  | some c, some s => c.stops s
  | _, _ => false

theorem run_append (acts acts' : List Action) (b : Switchboard) :
    run (acts ++ acts') b = (run acts b).andThen (run acts') :=
  Emission.forEach_append act acts acts' b

theorem made_run (made : Made topic id b) (acts : List Action) :
    Made topic id (run acts b).state := by
  induction acts generalizing b with
  | nil => exact made
  | cons a acts ih => exact ih (made_act made a)

theorem received_append (out out' : List Found) :
    received id (out ++ out') = received id out ++ received id out' := by
  simp [received, receipts]

theorem published_append (acts acts' : List Action) (b : Switchboard) :
    published topic id (acts ++ acts') b =
      published topic id acts b ++ published topic id acts' (run acts b).state := by
  induction acts generalizing b with
  | nil => rfl
  | cons a acts ih => rw [List.cons_append, published, ih, published, List.append_assoc]; rfl

/-- The event that is published, if one is. -/
def Concern.event? : Concern → Option Event
  | publish e => some e
  | _ => none

theorem event?_eq_bind (topic : Topic) (id : Nat) (a : Action) :
    a.event? topic = (a.concern? topic id).bind Concern.event? := by
  cases a with
  | subscribe => rfl
  | publish | receive | close | unsubscribe | drop =>
    simp only [Action.event?, Action.concern?]
    split <;> rfl

theorem covers_of_concern {a : Action} {e : Event}
    (h : a.concern? topic id = some (.publish e)) : topic.covers e = true := by
  cases a <;> simp [Action.concern?] at h
  exact h.2 ▸ h.1

theorem eq_drop_of_concern {a : Action} (h : a.concern? topic id = some .drop) :
    a = .drop id := by
  cases a <;> simp_all [Action.concern?]

/-- What concerns a subscription leaves it registered if it was, unless it is such that it stops
being registered. -/
theorem registered_take {c : Concern} {s : Subscription}
    (covered : ∀ e, c = .publish e → s.topic.covers e = true) :
    (c.take (some s)).state.any Subscription.registered = (s.registered && !c.stops s) := by
  cases c with
  | publish e => exact Subscription.registered_offer (covered e rfl)
  | receive => simp [Concern.take, Concern.stops, Subscription.registered_receive]
  | close | unsubscribe | drop => simp [Concern.take, Concern.stops]

/-- **What is received and what is still unread** grow together by the event that is published,
unless this strikes the subscription off. -/
theorem received_take {c : Concern} {s : Subscription}
    (covered : ∀ e, c = .publish e → s.topic.covers e = true) (kept : c ≠ .drop) :
    ∃ s', (c.take (some s)).state = some s' ∧
      (c.take (some s)).out.filterMap Receipt.event? ++ s'.unread =
        s.unread ++ (if s'.registered then c.event? else none).toList := by
  cases c with
  | publish e => exact ⟨s.offer e, rfl, Subscription.unread_offer (covered e rfl)⟩
  | receive =>
    refine ⟨s.receive.1, rfl, ?_⟩
    have found (r : Receipt) : [r].filterMap Receipt.event? = r.event?.toList := by
      cases r <;> rfl
    have silent : Concern.receive.event? = none := rfl
    rw [silent, ite_self, Option.toList_none, List.append_nil]
    exact (congrArg (· ++ _) (found s.receive.2)).trans s.event?_receive
  | close | unsubscribe => exact ⟨_, rfl, by simp [Concern.take, Concern.event?]⟩
  | drop => exact absurd rfl kept

/-! ### Being registered -/

theorem isRegistered_act (made : Made topic id b) (a : Action) :
    (act a b).state.isRegistered id = (b.isRegistered id && !a.stops topic id b) := by
  have state : (act a b).state.subscription? id = _ := congrArg Emission.state (seen_act made a)
  rw [isRegistered, isRegistered, state, Action.stops]
  cases concern : a.concern? topic id with
  | none => simp
  | some c =>
    cases known : b.subscription? id with
    | none => cases c <;> rfl
    | some s =>
      refine registered_take fun e published => ?_
      rw [made.topic known]
      exact covers_of_concern (published ▸ concern)

/-- **A subscription is registered until something happens with which it stops being so**, and never
again after that. -/
theorem isRegistered_run_iff (made : Made topic id b) (acts : List Action) :
    (run acts b).state.isRegistered id = true ↔
      b.isRegistered id = true ∧ ∀ before a after, acts = before ++ a :: after →
        a.stops topic id (run before b).state = false := by
  induction acts generalizing b with
  | nil => simp [run]
  | cons a acts ih =>
    rw [run_cons, Emission.state_andThen, ih (made_act made a), isRegistered_act made,
      Bool.and_eq_true, Bool.not_eq_true', and_assoc]
    refine and_congr_right fun _ => ⟨fun ⟨now, later⟩ before a' after cut => ?_, fun none => ?_⟩
    · rcases List.cons_eq_append_iff.mp cut with ⟨rfl, same⟩ | ⟨before, rfl, rest⟩
      · obtain ⟨rfl, -⟩ := List.cons.inj same
        exact now
      · exact later before a' after rest
    · exact ⟨none [] a acts rfl, fun before a' after cut =>
        none (a :: before) a' after (by rw [cut, List.cons_append])⟩

/-! ### Runs -/

/-- What one action adds to what was received and is unread. -/
theorem received_act (made : Made topic id b) {s : Subscription}
    (known : b.subscription? id = some s) {a : Action} (kept : a ≠ .drop id) :
    ∃ s', (act a b).state.subscription? id = some s' ∧
      received id (act a b).out ++ s'.unread =
        s.unread ++ (if (act a b).state.isRegistered id then a.event? topic else none).toList := by
  have seen := seen_act made a
  have state : (act a b).state.subscription? id = _ := congrArg Emission.state seen
  have out : receipts id (act a b).out = _ := congrArg Emission.out seen
  rw [isRegistered, received, state, out, event?_eq_bind topic id, known]
  cases concern : a.concern? topic id with
  | none => exact ⟨s, rfl, by simp only [Option.bind_none, ite_self]; simp⟩
  | some c =>
    have covered (e : Event) (published : c = .publish e) : s.topic.covers e = true := by
      rw [made.topic known]
      exact covers_of_concern (published ▸ concern)
    have notDropped : c ≠ .drop := fun dropped => kept (eq_drop_of_concern (dropped ▸ concern))
    obtain ⟨s', known', all⟩ := received_take covered notDropped
    exact ⟨s', known', by simpa [known'] using all⟩

/-- **No gap, no disorder**: as long as a subscription is not given up, what was received and what is
unread are what was unread and the events of its topic that were published while it was registered. -/
theorem received_run (made : Made topic id b) {s : Subscription}
    (known : b.subscription? id = some s) {acts : List Action} (kept : .drop id ∉ acts) :
    ∃ s', (run acts b).state.subscription? id = some s' ∧
      received id (run acts b).out ++ s'.unread = s.unread ++ published topic id acts b := by
  induction acts generalizing b s with
  | nil => exact ⟨s, known, by simp [published, run, received, receipts]⟩
  | cons a acts ih =>
    obtain ⟨first, kept⟩ := not_or.mp (mt List.mem_cons.mpr kept)
    obtain ⟨t, known, now⟩ := received_act made known (Ne.symm first)
    obtain ⟨s', known', later⟩ := ih (made_act made a) known kept
    refine ⟨s', known', ?_⟩
    rw [run_cons, Emission.out_andThen, received_append, List.append_assoc, later,
      ← List.append_assoc, now, published, List.append_assoc]

/-- No action brings a subscription back that was given up. -/
theorem received_act_of_gone (made : Made topic id b) (gone : b.subscription? id = none)
    (a : Action) :
    (act a b).state.subscription? id = none ∧ received id (act a b).out = [] := by
  have seen := seen_act made a
  have state : (act a b).state.subscription? id = _ := congrArg Emission.state seen
  have out : receipts id (act a b).out = _ := congrArg Emission.out seen
  rw [received, state, out, gone]
  cases a.concern? topic id with
  | none => exact ⟨rfl, rfl⟩
  | some c => cases c <;> exact ⟨rfl, rfl⟩

/-- A subscription that was given up gets nothing any more. -/
theorem received_run_of_gone (made : Made topic id b) (gone : b.subscription? id = none)
    (acts : List Action) :
    (run acts b).state.subscription? id = none ∧ received id (run acts b).out = [] ∧
      published topic id acts b = [] := by
  induction acts generalizing b with
  | nil => exact ⟨gone, rfl, rfl⟩
  | cons a acts ih =>
    obtain ⟨still, out⟩ := received_act_of_gone made gone a
    obtain ⟨gone', out', published'⟩ := ih (made_act made a) still
    refine ⟨gone', ?_, ?_⟩
    · rw [run_cons, Emission.out_andThen, received_append, out, out', List.append_nil]
    · rw [published, published', isRegistered, still]
      rfl

/-- From when it is given up, a subscription gets nothing any more. -/
theorem received_run_of_dropped (made : Made topic id b) (before after : List Action) :
    (run (before ++ .drop id :: after) b).state.subscription? id = none ∧
      received id (run (before ++ .drop id :: after) b).out = received id (run before b).out ∧
      published topic id (before ++ .drop id :: after) b = published topic id before b := by
  generalize reached : (run before b).state = b'
  have gone : (b'.drop id).subscription? id = none := by rw [subscription?_drop, if_pos rfl]
  have made' : Made topic id (b'.drop id) := made_act (reached ▸ made_run made before) (.drop id)
  obtain ⟨still, out, nothing⟩ := received_run_of_gone made' gone after
  have unregistered : (b'.drop id).isRegistered id = false := by
    rw [isRegistered, gone]
    rfl
  have rest : run (.drop id :: after) b' = run after (b'.drop id) := rfl
  rw [run_append, Emission.state_andThen, Emission.out_andThen, reached, rest, received_append, out,
    published_append, reached, published]
  refine ⟨still, List.append_nil _, ?_⟩
  rw [show (act (.drop id) b').state = b'.drop id from rfl, nothing, unregistered]
  exact List.append_nil _

/-- What can be said of a subscription with a topic and a number from when it was made on a
switchboard, after some actions. -/
structure Faithful (topic : Topic) (id : Nat) (acts : List Action) (b : Switchboard) : Prop where
  /-- Unless it was given up, what was received and what is unread are the events of its topic that
  were published while it was registered, each once and in order. -/
  delivered : .drop id ∉ acts → ∃ s, (run acts b).state.subscription? id = some s ∧
    received id (run acts b).out ++ s.unread = published topic id acts b
  /-- From when it is given up, it gets nothing any more. -/
  dropped : ∀ before after, acts = before ++ .drop id :: after →
    (run acts b).state.subscription? id = none ∧
      received id (run acts b).out = received id (run before b).out ∧
      published topic id acts b = published topic id before b
  /-- It is registered until something happens with which it stops being so. -/
  registered_iff : (run acts b).state.isRegistered id = true ↔
    ∀ before a after, acts = before ++ a :: after → a.stops topic id (run before b).state = false
  /-- It gets what it would get alone. -/
  isolated : seen id (run acts b) =
    alone (acts.filterMap (Action.concern? topic id)) (some (.fresh topic))
  /-- The count is that of all subscriptions that are registered. -/
  counted : (run acts b).state.count =
    (List.range (run acts b).state.next).countP (run acts b).state.isRegistered

/-- **Every subscription gets what it was made for.** -/
theorem faithful_of_run (before after : List Action) (topic : Topic) :
    Faithful topic ((run before .empty).state.subscribe topic).2 after
      ((run before .empty).state.subscribe topic).1 := by
  generalize start : (run before .empty).state = b
  have sound : Sound b := start ▸ sound_run sound_empty before
  have fresh : (b.subscribe topic).1.subscription? (b.subscribe topic).2 =
      some (.fresh topic) := by
    rw [subscription?_subscribe]
    exact if_pos rfl
  have made : Made topic (b.subscribe topic).2 (b.subscribe topic).1 :=
    ⟨sound.subscribe topic, Nat.lt_succ_self _, fun {s} known => by
      rw [← Option.some.inj (fresh.symm.trans known)]
      rfl⟩
  refine ⟨fun kept => received_run made fresh kept, fun earlier later cut => ?_, ?_, ?_,
    (sound_run made.sound after).count_eq⟩
  · exact cut ▸ received_run_of_dropped made earlier later
  · rw [isRegistered_run_iff made, isRegistered, fresh]
    exact and_iff_right rfl
  · rw [seen_run made, fresh]

end Switchboard

end Showdown
