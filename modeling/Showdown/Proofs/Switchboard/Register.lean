import Showdown.Proofs.Lookup
import Showdown.Switchboard
import Mathlib.Data.List.Nodup

/-!
# The register of a switchboard

Each subscription is listed under its own topic, once, or not at all (`Sound`). So whatever is done
to a switchboard does to a subscription what it would do to it alone: above all, an event that is
published is offered to each subscription, whichever others are struck off on the way
(`subscription?_publish`), and a number that is struck off under a wrong topic leaves everybody
where they are (`subscription?_unsubscribe`).
-/

namespace Showdown

theorem Topic.tableId?_inj {topic other : Topic} :
    topic.tableId? = other.tableId? ↔ topic = other := by
  cases topic <;> cases other <;> simp [tableId?]

/-- A subscription that an event does not go to stays as it is. -/
theorem Subscription.offer_of_spared {s : Subscription} {e : Event}
    (spared : (s.registered && s.topic.covers e) = false) : s.offer e = s := by
  rw [offer, spared]
  rfl

namespace Switchboard

variable {b : Switchboard} {topic other : Topic} {id i : Nat} {e : Event}

/-- A subscription that was not given up, as its owner sees it. -/
def subscription? (b : Switchboard) (id : Nat) : Option Subscription :=
  b.mailboxes[id]?.map fun m => ⟨m.topic, b.lists m.topic id, m.closed, m.unread⟩

/-- Subscriptions are listed as they should be. -/
structure Sound (b : Switchboard) : Prop where
  /-- Who is listed under a topic has a mailbox for it. -/
  topic : ∀ {topic : Topic} {id : Nat}, id ∈ b.listed topic →
    ∃ m, b.mailboxes[id]? = some m ∧ m.topic = topic
  /-- Nobody is listed twice. -/
  nodup : ∀ topic, (b.listed topic).Nodup
  /-- Numbers are given out only once. -/
  unused : ∀ {id : Nat}, b.next ≤ id → b.mailboxes[id]? = none

theorem sound_empty : Sound empty where
  topic h := by simp [listed, empty] at h
  nodup topic := by simp [listed, empty]
  unused _ := by simp [empty]

theorem subscription?_congr {b' : Switchboard} (mailbox : b'.mailboxes[id]? = b.mailboxes[id]?)
    (lists : ∀ topic, b'.lists topic id = b.lists topic id) :
    b'.subscription? id = b.subscription? id := by
  simp only [subscription?, mailbox, lists]

/-! ### Numbers that are struck off -/

theorem listed_unsubscribe (b : Switchboard) (topic other : Topic) (id : Nat) :
    (b.unsubscribe topic id).listed other =
      if other = topic then (b.listed topic).filter (· != id) else b.listed other := by
  cases found : b.register[topic.tableId?]? with
  | none =>
    have same : b.unsubscribe topic id = b := by rw [unsubscribe, found]
    rw [same]
    split
    · rename_i own
      simp [listed, own, found]
    · rfl
  | some ids =>
    rw [unsubscribe, found]
    by_cases own : other = topic
    · subst own
      by_cases none_left : (ids.filter (· != id)).isEmpty
      · simp [listed, found, List.isEmpty_iff.mp none_left]
      · simp [listed, found, none_left]
    · have elsewhere : other.tableId? ≠ topic.tableId? := mt Topic.tableId?_inj.mp own
      simp only [listed, own, ↓reduceIte]
      split
      · rw [getElem?_erase_of_ne _ elsewhere]
      · rw [getElem?_insert_of_ne _ elsewhere]

@[simp] theorem mailboxes_unsubscribe (b : Switchboard) (topic : Topic) (id : Nat) :
    (b.unsubscribe topic id).mailboxes = b.mailboxes := by
  unfold unsubscribe
  split <;> rfl

@[simp] theorem next_unsubscribe (b : Switchboard) (topic : Topic) (id : Nat) :
    (b.unsubscribe topic id).next = b.next := by
  unfold unsubscribe
  split <;> rfl

theorem lists_unsubscribe (b : Switchboard) (topic other : Topic) (id i : Nat) :
    (b.unsubscribe topic id).lists other i = (b.lists other i && !(other == topic && i == id)) := by
  rw [lists, lists, listed_unsubscribe, Bool.eq_iff_iff]
  split
  · rename_i own
    subst own
    simp
  · rename_i own
    simp [own]

theorem mem_listed_of_unsubscribe (h : i ∈ (b.unsubscribe topic id).listed other) :
    i ∈ b.listed other := by
  rw [listed_unsubscribe] at h
  split at h
  · rename_i own
    exact own ▸ List.mem_of_mem_filter h
  · exact h

theorem Sound.unsubscribe (sound : Sound b) (topic : Topic) (id : Nat) :
    Sound (b.unsubscribe topic id) where
  topic h := by
    rw [mailboxes_unsubscribe]
    exact sound.topic (mem_listed_of_unsubscribe h)
  nodup other := by
    rw [listed_unsubscribe]
    split
    · exact (sound.nodup topic).filter _
    · exact sound.nodup other
  unused h := by
    rw [mailboxes_unsubscribe]
    exact sound.unused (by simpa using h)

/-- **A number is struck off under a topic**: only the subscription with this number and this topic
is concerned. -/
theorem subscription?_unsubscribe (b : Switchboard) (topic : Topic) (id i : Nat) :
    (b.unsubscribe topic id).subscription? i = (b.subscription? i).map fun s =>
      if i = id ∧ s.topic = topic then { s with registered := false } else s := by
  simp only [subscription?, mailboxes_unsubscribe, Option.map_map]
  congr 1
  funext m
  simp only [Function.comp, lists_unsubscribe]
  by_cases own : i = id ∧ m.topic = topic
  · simp [own.1, own.2]
  · rw [if_neg own, Decidable.not_and_iff_not_or_not] at *
    rcases own with own | own <;> simp [own]

/-! ### Mailboxes that are replaced -/

@[simp] theorem lists_keep (b : Switchboard) (id : Nat) (m : Mailbox) :
    (b.keep id m).lists = b.lists := rfl

/-- A mailbox is replaced by another one for the same topic. -/
theorem Sound.keep (sound : Sound b) {m m' : Mailbox} (found : b.mailboxes[id]? = some m)
    (same : m'.topic = m.topic) : Sound (b.keep id m') where
  topic {topic i} h := by
    obtain ⟨n, hn, own⟩ := sound.topic h
    by_cases mine : i = id
    · subst mine
      obtain rfl : m = n := Option.some.inj (found.symm.trans hn)
      exact ⟨m', by simp [Switchboard.keep], same.trans own⟩
    · exact ⟨n, (getElem?_insert_of_ne _ mine _).trans hn, own⟩
  nodup := sound.nodup
  unused {i} h := by
    have other : i ≠ id := by
      rintro rfl
      rw [sound.unused h] at found
      cases found
    exact (getElem?_insert_of_ne _ other _).trans (sound.unused h)

theorem subscription?_keep_of_ne (b : Switchboard) (h : i ≠ id) (m : Mailbox) :
    (b.keep id m).subscription? i = b.subscription? i :=
  subscription?_congr (getElem?_insert_of_ne _ h _) fun _ => rfl

theorem subscription?_keep (b : Switchboard) (id : Nat) (m : Mailbox) :
    (b.keep id m).subscription? id = some ⟨m.topic, b.lists m.topic id, m.closed, m.unread⟩ := by
  rw [subscription?, lists_keep]
  simp [keep]

theorem subscription?_of_mailbox {m : Mailbox} (found : b.mailboxes[id]? = some m) :
    b.subscription? id = some ⟨m.topic, b.lists m.topic id, m.closed, m.unread⟩ := by
  rw [subscription?, found]
  rfl

/-! ### Owners -/

theorem Sound.close (sound : Sound b) (id : Nat) : Sound (b.close id) := by
  unfold Switchboard.close
  split
  · exact sound
  · rename_i m found
    exact sound.keep found rfl

theorem subscription?_close (b : Switchboard) (id i : Nat) :
    (b.close id).subscription? i = (b.subscription? i).map fun s =>
      if i = id then { s with closed := true } else s := by
  unfold close
  split
  · rename_i found
    by_cases own : i = id
    · simp [subscription?, own, found]
    · simp [own]
  · rename_i m found
    by_cases own : i = id
    · subst own
      simp [subscription?_keep, subscription?_of_mailbox found]
    · simp [subscription?_keep_of_ne b own, own]

theorem Sound.drop (sound : Sound b) (id : Nat) : Sound (b.drop id) := by
  unfold Switchboard.drop
  split
  · exact sound
  · rename_i m found
    have less := sound.unsubscribe m.topic id
    refine ⟨fun {topic i} h => ?_, less.nodup, fun {i} h => ?_⟩
    · obtain ⟨n, hn, own⟩ := less.topic h
      have other : i ≠ id := by
        rintro rfl
        rw [mailboxes_unsubscribe, found] at hn
        obtain rfl := Option.some.inj hn
        have gone : i ∈ (b.unsubscribe m.topic i).listed topic := h
        rw [listed_unsubscribe, if_pos own.symm] at gone
        simp at gone
      rw [mailboxes_unsubscribe] at hn
      exact ⟨n, (getElem?_erase_of_ne _ other).trans hn, own⟩
    · have unused := less.unused h
      rw [mailboxes_unsubscribe] at unused
      by_cases own : i = id
      · simp [own]
      · exact (getElem?_erase_of_ne _ own).trans unused

/-- A subscription that is given up is gone, and the others stay as they are. -/
theorem subscription?_drop (b : Switchboard) (id i : Nat) :
    (b.drop id).subscription? i = if i = id then none else b.subscription? i := by
  unfold drop
  split
  · rename_i found
    split
    · rename_i own
      simp [subscription?, own, found]
    · rfl
  · rename_i m found
    split
    · rename_i own
      simp [subscription?, own]
    · rename_i other
      refine subscription?_congr (getElem?_erase_of_ne _ other) fun topic => ?_
      have unlisted : (i == id) = false := beq_eq_false_iff_ne.mpr other
      have same := lists_unsubscribe b m.topic topic id i
      rw [unlisted, Bool.and_false, Bool.not_false, Bool.and_true] at same
      exact same

/-- Looking into a mailbox does to the subscription what it would do to it alone. -/
theorem subscription?_receive (b : Switchboard) (id i : Nat) :
    (b.receive id).1.subscription? i = (b.subscription? i).map fun s =>
      if i = id then s.receive.1 else s := by
  unfold receive
  split
  · rename_i found
    by_cases own : i = id
    · simp [subscription?, own, found]
    · simp [own]
  · rename_i m found
    split
    · rename_i e rest unread
      by_cases own : i = id
      · subst own
        simp [subscription?_keep, subscription?_of_mailbox found, Subscription.receive, unread]
      · simp [subscription?_keep_of_ne b own, own]
    · rename_i unread
      by_cases own : i = id
      · subst own
        simp [subscription?_of_mailbox found, Subscription.receive, unread]
      · simp [own]

/-- And what is found there is what the subscription alone would find. -/
theorem receipt_receive (b : Switchboard) (id : Nat) :
    (b.receive id).2 = ((b.subscription? id).map fun s => s.receive.2).getD .over := by
  unfold receive
  split
  · rename_i found
    simp [subscription?, found]
  · rename_i m found
    rw [subscription?_of_mailbox found]
    split
    · rename_i e rest unread
      simp [Subscription.receive, unread]
    · rename_i unread
      simp [Subscription.receive, unread, isOver, found, Subscription.isOver]

theorem Sound.receive (sound : Sound b) (id : Nat) : Sound (b.receive id).1 := by
  unfold Switchboard.receive
  split
  · exact sound
  · rename_i m found
    split
    · exact sound.keep found rfl
    · exact sound

theorem next_close (b : Switchboard) (id : Nat) : (b.close id).next = b.next := by
  unfold close
  split <;> rfl

theorem next_drop (b : Switchboard) (id : Nat) : (b.drop id).next = b.next := by
  unfold drop
  split
  · rfl
  · exact next_unsubscribe ..

theorem next_receive (b : Switchboard) (id : Nat) : (b.receive id).1.next = b.next := by
  unfold receive
  split
  · rfl
  · split <;> rfl

/-! ### New subscriptions -/

theorem listed_subscribe (b : Switchboard) (topic other : Topic) :
    (b.subscribe topic).1.listed other =
      if other = topic then b.listed topic ++ [b.next] else b.listed other := by
  split
  · rename_i own
    simp [listed, subscribe, own]
  · rename_i elsewhere
    simp only [listed, subscribe]
    rw [getElem?_insert_of_ne _ (mt Topic.tableId?_inj.mp elsewhere)]

theorem Sound.not_listed (sound : Sound b) (topic : Topic) : b.next ∉ b.listed topic := by
  intro h
  obtain ⟨m, found, -⟩ := sound.topic h
  cases (sound.unused (Nat.le_refl _)).symm.trans found

theorem Sound.subscribe (sound : Sound b) (topic : Topic) : Sound (b.subscribe topic).1 where
  topic {other i} h := by
    rw [listed_subscribe] at h
    by_cases new : i = b.next
    · subst new
      split at h
      · rename_i own
        exact ⟨.empty topic, by simp [Switchboard.subscribe], own.symm⟩
      · exact absurd h (sound.not_listed other)
    · have old : i ∈ b.listed other := by
        split at h
        · rename_i own
          simpa [new, own] using h
        · exact h
      obtain ⟨m, found, own⟩ := sound.topic old
      exact ⟨m, (getElem?_insert_of_ne _ new _).trans found, own⟩
  nodup other := by
    rw [listed_subscribe]
    split
    · rw [← List.concat_eq_append]
      exact (sound.nodup topic).concat (sound.not_listed topic)
    · exact sound.nodup other
  unused {i} h := by
    have later : b.next + 1 ≤ i := h
    exact (getElem?_insert_of_ne _ (by omega) _).trans (sound.unused (by omega))

theorem subscription?_subscribe (b : Switchboard) (topic : Topic) (i : Nat) :
    (b.subscribe topic).1.subscription? i =
      if i = b.next then some (.fresh topic) else b.subscription? i := by
  split
  · rename_i new
    simp [subscription?, subscribe, new, lists, listed, Mailbox.empty, Subscription.fresh]
  · rename_i old
    refine subscription?_congr (getElem?_insert_of_ne _ old _) fun other => ?_
    rw [lists, lists, listed_subscribe]
    split
    · rename_i own
      simp [own, old]
    · rfl

/-! ### Events -/

theorem mem_targets {target : Topic × Nat} :
    target ∈ b.targets e ↔ target.2 ∈ b.listed target.1 ∧ target.1.covers e = true := by
  obtain ⟨topic, id⟩ := target
  cases topic with
  | all => simp [targets, Topic.covers]
  | table tableId =>
    simp only [targets, Topic.covers, List.mem_append, List.mem_map, Prod.mk.injEq, beq_iff_eq]
    constructor
    · rintro (⟨_, _, same, _⟩ | ⟨id', h, same, rfl⟩)
      · cases same
      · cases same
        exact ⟨h, rfl⟩
    · rintro ⟨h, rfl⟩
      exact .inr ⟨id, h, rfl, rfl⟩

/-- Nobody is tried twice. -/
theorem Sound.nodup_targets (sound : Sound b) (e : Event) :
    ((b.targets e).map Prod.snd).Nodup := by
  simp only [targets, List.map_append, List.map_map, Function.comp_def, List.map_id']
  refine (sound.nodup _).append (sound.nodup _) fun id here there => ?_
  obtain ⟨m, found, own⟩ := sound.topic here
  obtain ⟨m', found', own'⟩ := sound.topic there
  obtain rfl : m = m' := Option.some.inj (found.symm.trans found')
  cases own.symm.trans own'

theorem subscription?_deliver_of_ne {target : Topic × Nat} (h : i ≠ target.2) :
    (deliver e b target).subscription? i = b.subscription? i := by
  unfold deliver
  split
  · exact subscription?_keep_of_ne b h _
  · simp [subscription?_unsubscribe, h]

/-- The subscription that is tried is offered the event. -/
theorem subscription?_deliver {s : Subscription} (known : b.subscription? id = some s)
    (registered : s.registered = true) (covered : s.topic.covers e = true) :
    (deliver e b (s.topic, id)).subscription? id = some (s.offer e) := by
  obtain ⟨m, found, rfl⟩ := Option.map_eq_some_iff.mp known
  simp only at registered covered
  unfold deliver
  simp only [found, Option.bind_some]
  cases put : m.put? e with
  | some m' =>
    simp only [Mailbox.put?] at put
    split at put
    · cases put
    · rename_i accepts
      obtain rfl := Option.some.inj put
      rw [subscription?_keep]
      simp [Subscription.offer, registered, covered, accepts]
  | none =>
    simp only [Mailbox.put?] at put
    split at put
    · rename_i refused
      rw [subscription?_unsubscribe, known]
      simp [Subscription.offer, registered, covered, refused]
    · cases put

theorem subscription?_foldl_of_not_mem {ts : List (Topic × Nat)} (h : i ∉ ts.map Prod.snd) :
    (ts.foldl (deliver e) b).subscription? i = b.subscription? i := by
  induction ts generalizing b with
  | nil => rfl
  | cons t ts ih =>
    obtain ⟨first, rest⟩ := not_or.mp (mt List.mem_cons.mpr h)
    rw [List.foldl_cons, ih rest, subscription?_deliver_of_ne first]

/-- Whoever is tried before and after, a subscription that is tried once is offered the event. -/
theorem subscription?_foldl_of_mem {s : Subscription} {ts : List (Topic × Nat)}
    (known : b.subscription? i = some s) (registered : s.registered = true)
    (covered : s.topic.covers e = true) (nodup : (ts.map Prod.snd).Nodup)
    (h : (s.topic, i) ∈ ts) : (ts.foldl (deliver e) b).subscription? i = some (s.offer e) := by
  induction ts generalizing b with
  | nil => cases h
  | cons t ts ih =>
    obtain ⟨once, nodup⟩ := List.nodup_cons.mp nodup
    rw [List.foldl_cons]
    rcases List.mem_cons.mp h with rfl | h
    · rw [subscription?_foldl_of_not_mem once]
      exact subscription?_deliver known registered covered
    · have other : i ≠ t.2 := fun same => once (same ▸ List.mem_map_of_mem (f := Prod.snd) h)
      exact ih (by rwa [subscription?_deliver_of_ne other]) nodup h

/-- **An event is offered to each subscription as if it was alone**, whichever others are struck off
on the way. -/
theorem subscription?_publish (sound : Sound b) (e : Event) (i : Nat) :
    (b.publish e).subscription? i = (b.subscription? i).map fun s => s.offer e := by
  have untried (h : ∀ topic, i ∈ b.listed topic → topic.covers e = false) :
      (b.publish e).subscription? i = b.subscription? i := by
    refine subscription?_foldl_of_not_mem fun tried => ?_
    obtain ⟨⟨topic, _⟩, mem, rfl⟩ := List.mem_map.mp tried
    obtain ⟨listed, covered⟩ := mem_targets.mp mem
    rw [h topic listed] at covered
    cases covered
  cases known : b.subscription? i with
  | none =>
    rw [untried fun topic listed => ?_, known]
    · rfl
    · obtain ⟨m, found, -⟩ := sound.topic listed
      cases known.symm.trans (subscription?_of_mailbox found)
  | some s =>
    obtain ⟨m, found, rfl⟩ := Option.map_eq_some_iff.mp known
    by_cases tried : b.lists m.topic i = true ∧ m.topic.covers e = true
    · obtain ⟨registered, covered⟩ := tried
      refine subscription?_foldl_of_mem known registered covered (sound.nodup_targets e) ?_
      exact mem_targets.mpr ⟨List.contains_iff_mem.mp registered, covered⟩
    · rw [untried fun topic listed => ?_, known, Option.map_some, Subscription.offer_of_spared]
      · rwa [← Bool.and_eq_true, Bool.not_eq_true] at tried
      · obtain ⟨m', found', rfl⟩ := sound.topic listed
        obtain rfl : m = m' := Option.some.inj (found.symm.trans found')
        by_contra covered
        exact tried ⟨List.contains_iff_mem.mpr listed, by simpa using covered⟩

theorem Sound.deliver (sound : Sound b) (e : Event) (target : Topic × Nat) :
    Sound (deliver e b target) := by
  unfold Switchboard.deliver
  split
  · rename_i m' put
    obtain ⟨m, found, put⟩ := Option.bind_eq_some_iff.mp put
    refine sound.keep found ?_
    simp only [Mailbox.put?] at put
    split at put
    · cases put
    · rw [← Option.some.inj put]
  · exact sound.unsubscribe _ _

theorem next_deliver (e : Event) (b : Switchboard) (target : Topic × Nat) :
    (deliver e b target).next = b.next := by
  unfold deliver
  split
  · rfl
  · exact next_unsubscribe ..

theorem Sound.publish (sound : Sound b) (e : Event) : Sound (b.publish e) := by
  have all (ts : List (Topic × Nat)) (b : Switchboard) (sound : Sound b) :
      Sound (ts.foldl (Switchboard.deliver e) b) := by
    induction ts generalizing b with
    | nil => exact sound
    | cons t ts ih => exact ih _ (sound.deliver e t)
  exact all _ b sound

theorem next_publish (b : Switchboard) (e : Event) : (b.publish e).next = b.next := by
  have all (ts : List (Topic × Nat)) (b : Switchboard) :
      (ts.foldl (deliver e) b).next = b.next := by
    induction ts generalizing b with
    | nil => rfl
    | cons t ts ih => exact (ih _).trans (next_deliver e b t)
  exact all _ b

/-! ### The number of subscriptions -/

/-- A subscription is in the register. -/
def isRegistered (b : Switchboard) (id : Nat) : Bool :=
  (b.subscription? id).any Subscription.registered

theorem Sound.isRegistered_iff (sound : Sound b) :
    b.isRegistered id = true ↔ ∃ topic, id ∈ b.listed topic := by
  rw [isRegistered, Option.any_eq_true]
  constructor
  · rintro ⟨s, known, registered⟩
    obtain ⟨m, found, rfl⟩ := Option.map_eq_some_iff.mp known
    exact ⟨m.topic, List.contains_iff_mem.mp registered⟩
  · rintro ⟨topic, listed⟩
    obtain ⟨m, found, rfl⟩ := sound.topic listed
    exact ⟨_, subscription?_of_mailbox found, List.contains_iff_mem.mpr listed⟩

/-- All numbers in the register, topic by topic. -/
def everybody (b : Switchboard) : List Nat :=
  b.register.toList.flatMap Prod.snd

theorem count_eq_length (b : Switchboard) : b.count = b.everybody.length := by
  have adds (entries : List (Option TableId × List Nat)) (n : Nat) :
      entries.foldl (fun n e => n + e.2.length) n = n + (entries.flatMap Prod.snd).length := by
    induction entries generalizing n with
    | nil => rfl
    | cons e entries ih =>
      rw [List.foldl_cons, ih, List.flatMap_cons, List.length_append, Nat.add_assoc]
  rw [count, adds, Nat.zero_add, everybody]

/-- Each entry of the register is the list of some topic. -/
theorem listed_of_mem {entry : Option TableId × List Nat} (h : entry ∈ b.register.toList) :
    ∃ topic : Topic, topic.tableId? = entry.1 ∧ b.listed topic = entry.2 := by
  have found := Std.TreeMap.mem_toList_iff_getElem?_eq_some.mp h
  obtain ⟨key, ids⟩ := entry
  cases key with
  | none => exact ⟨.all, rfl, by rw [listed, Topic.tableId?, found]; rfl⟩
  | some tableId => exact ⟨.table tableId, rfl, by rw [listed, Topic.tableId?, found]; rfl⟩

theorem mem_everybody_iff : id ∈ b.everybody ↔ ∃ topic, id ∈ b.listed topic := by
  rw [everybody, List.mem_flatMap]
  constructor
  · rintro ⟨entry, mem, h⟩
    obtain ⟨topic, -, same⟩ := listed_of_mem mem
    exact ⟨topic, same ▸ h⟩
  · rintro ⟨topic, h⟩
    rw [listed] at h
    cases found : b.register[topic.tableId?]? with
    | none => simp [found] at h
    | some ids =>
      rw [found] at h
      exact ⟨_, Std.TreeMap.mem_toList_iff_getElem?_eq_some.mpr found, h⟩

theorem Sound.nodup_everybody (sound : Sound b) : b.everybody.Nodup := by
  refine List.nodup_flatMap.mpr ⟨fun entry mem => ?_, ?_⟩
  · obtain ⟨topic, -, same⟩ := listed_of_mem mem
    exact same ▸ sound.nodup topic
  · refine b.register.distinct_keys_toList.imp_of_mem fun {entry entry'} mem mem' distinct => ?_
    obtain ⟨topic, key, same⟩ := listed_of_mem mem
    obtain ⟨topic', key', same'⟩ := listed_of_mem mem'
    -- a number that is listed under two topics would have a mailbox for both
    intro id h h'
    obtain ⟨m, found, own⟩ := sound.topic (same ▸ h)
    obtain ⟨m', found', own'⟩ := sound.topic (same' ▸ h')
    obtain rfl : m = m' := Option.some.inj (found.symm.trans found')
    refine distinct ?_
    rw [← key, ← key', ← own, ← own']
    exact Std.ReflCmp.compare_self

theorem Sound.lt_next (sound : Sound b) (h : b.isRegistered id = true) : id < b.next := by
  obtain ⟨topic, listed⟩ := sound.isRegistered_iff.mp h
  obtain ⟨m, found, -⟩ := sound.topic listed
  by_contra later
  cases (sound.unused (Nat.le_of_not_lt later)).symm.trans found

/-- **The count is the number of subscriptions that are registered.** -/
theorem Sound.count_eq (sound : Sound b) :
    b.count = (List.range b.next).countP b.isRegistered := by
  rw [count_eq_length, List.countP_eq_length_filter]
  refine ((List.perm_ext_iff_of_nodup sound.nodup_everybody
    (List.nodup_range.filter _)).mpr fun id => ?_).length_eq
  rw [mem_everybody_iff, ← sound.isRegistered_iff, List.mem_filter, List.mem_range]
  exact ⟨fun h => ⟨sound.lt_next h, h⟩, And.right⟩

end Switchboard

end Showdown
