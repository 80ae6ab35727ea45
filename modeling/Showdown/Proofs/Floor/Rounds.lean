import Showdown.Floor.Round
import Showdown.Proofs.Floor.Docket
import Showdown.Proofs.Floor.Removal
import Showdown.Proofs.Table.Inbox

/-!
# What arrives during a check of health

A check of health that nothing gets in the way of is the one that the floor makes in one go
(`play_replicate`). If observations arrive while it is under way, then it matters when they do. A
table that is heard of between the sweep and the look for tables that are overdue is spared. But
then the list is made, and the tables on it are removed in turn, whatever is heard of them in the
meantime: so a hand may be given up that was observed after its table was listed, and no other hand
is (`proceeds_of_run`). That this happens is shown by `revived_of_round`.
-/

namespace Showdown

/-! ### Dockets -/

namespace Docket

/-- What the monitor knows of a table says that it has been disconnected for some time. -/
def Dated (d : Docket) : Prop :=
  ∃ c, d.channel = some c ∧ c.disconnectedSince.isSome

theorem not_dated_hear (source : Source) (now : Nat) (d : Docket) :
    ¬ (d.hear source now).Dated := by
  rintro ⟨c, known, dated⟩
  obtain rfl := Option.some.inj known
  cases source <;> cases dated

theorem dated_of_isOverdue {time : Nat} {d : Docket} (late : d.isOverdue time = true) :
    d.Dated := by
  obtain ⟨c, known, late⟩ := (Option.any_eq_true ..).mp late
  refine ⟨c, known, ?_⟩
  obtain ⟨since, dated, -⟩ := (Option.any_eq_true ..).mp late
  rw [dated]
  rfl

/-- After a sweep only tables without a source that delivers have been disconnected for some
time. -/
theorem status_of_dated_sweep {time : Nat} {d : Docket} (dated : (d.sweep time).Dated) :
    (d.sweep time).channel.map Channel.status = some .disconnected := by
  obtain ⟨c, known, dated⟩ := dated
  obtain ⟨before, -, rfl⟩ := Option.map_eq_some_iff.mp known
  rw [known, Option.map_some]
  by_contra connected
  have never : (before.reassess d.window time).disconnectedSince = none :=
    if_neg (mt (congrArg some) connected)
  rw [never] at dated
  cases dated

end Docket

namespace Floor

open Effect

variable {tableId recipient : TableId} {number : HandNumber} {f : Floor} {a : Arrival}

/-! ### A check in one go -/

theorem play_cons (m : Move) (ms : List Move) (c : Checking) :
    c.play (m :: ms) = (c.take m).andThen (Checking.play ms) := rfl

/-- The removals of a check, one step after another. -/
theorem play_removing (tableIds : List TableId) (f : Floor) :
    Checking.play (List.replicate tableIds.length .goOn) ⟨f, .removing tableIds⟩ =
      ⟨⟨(Emission.forEach remove tableIds f).state, .removing []⟩,
        (Emission.forEach remove tableIds f).out⟩ := by
  induction tableIds generalizing f with
  | nil => rfl
  | cons tableId tableIds ih =>
    have first : Checking.take .goOn ⟨f, .removing (tableId :: tableIds)⟩ =
        ⟨⟨(f.remove tableId).state, .removing tableIds⟩, (f.remove tableId).out⟩ := rfl
    rw [List.length_cons, List.replicate_succ, play_cons, first, Emission.andThen, ih]
    rfl

/-- **A check that nothing gets in the way of** is made in one go. -/
theorem play_replicate (time : Nat) (f : Floor) :
    Checking.play (List.replicate (((f.sweep time).state.overdue time).length + 2) .goOn)
        ⟨f, .sweeping time⟩ =
      ⟨⟨(f.check time).state, .removing []⟩, (f.check time).out⟩ := by
  have swept : Checking.take .goOn ⟨f, .sweeping time⟩ =
      ⟨⟨(f.sweep time).state, .listing time⟩, (f.sweep time).out⟩ := rfl
  have listed : Checking.take .goOn ⟨(f.sweep time).state, .listing time⟩ =
      .quiet ⟨(f.sweep time).state, .removing ((f.sweep time).state.overdue time)⟩ := rfl
  rw [List.replicate_succ, play_cons, swept, Emission.andThen, List.replicate_succ, play_cons, listed,
    Emission.quiet, Emission.andThen, play_removing]
  rfl

/-! ### Arrivals -/

/-- A source of a table is heard of. -/
def Arrival.Reaches (tableId : TableId) : Arrival → Prop
  | hand r => r.tableId = tableId
  | sighting r => r.tableId = tableId ∧ r.validate.isOk
  | hear heard _ => heard = tableId

/-- A hand of a table is observed. -/
def Arrival.Observes (tableId : TableId) (number : HandNumber) : Arrival → Prop
  | hand r => r.tableId = tableId ∧ r.handNumber = number
  | sighting r => r.tableId = tableId ∧ r.handNumber = number ∧ r.validate.isOk
  | hear .. => False

/-- An arrival at a table is a sign of life of one of its sources, and at other tables it changes
nothing. -/
theorem docket_arrival (taken : f.outlet = none) (a : Arrival) (tableId : TableId) :
    (a.Reaches tableId ∧ ∃ source, ((f.act a.request).state.docket tableId).channel =
      ((f.docket tableId).hear source f.now).channel) ∨
    (¬ a.Reaches tableId ∧ (f.act a.request).state.docket tableId = f.docket tableId) := by
  rw [docket_act taken]
  cases a with
  | hand r =>
    by_cases own : r.tableId = tableId
    · exact .inl ⟨own, .primary, by rw [Arrival.request, Docket.step, if_pos own]; rfl⟩
    · exact .inr ⟨own, if_neg own⟩
  | sighting r =>
    by_cases own : r.tableId = tableId ∧ r.validate.isOk
    · exact .inl ⟨own, .secondary, by rw [Arrival.request, Docket.step, if_pos own]; rfl⟩
    · exact .inr ⟨own, if_neg own⟩
  | hear heard source =>
    by_cases own : heard = tableId
    · exact .inl ⟨own, source, by rw [Arrival.request, Docket.step, if_pos own]⟩
    · exact .inr ⟨own, if_neg own⟩

/-- A table that an arrival reaches has not been disconnected then. -/
theorem not_dated_of_reaches (taken : f.outlet = none) (reached : a.Reaches tableId) :
    ¬ ((f.act a.request).state.docket tableId).Dated := by
  rcases docket_arrival taken a tableId with ⟨-, source, heard⟩ | ⟨missed, -⟩
  · rw [Docket.Dated, heard]
    exact Docket.not_dated_hear source f.now _
  · exact absurd reached missed

/-- No table becomes disconnected by an arrival. -/
theorem docket_of_dated (taken : f.outlet = none)
    (dated : ((f.act a.request).state.docket tableId).Dated) :
    ¬ a.Reaches tableId ∧ (f.act a.request).state.docket tableId = f.docket tableId := by
  rcases docket_arrival taken a tableId with ⟨reached, -⟩ | spared
  · exact absurd dated (not_dated_of_reaches taken reached)
  · exact spared

/-- Some things arrive, one after another. -/
def arriveAll : List Arrival → Floor → Emission Floor Effect :=
  Emission.forEach fun a => act a.request

theorem play_arrive (as : List Arrival) (r : Round) (f : Floor) :
    Checking.play (as.map .arrive) ⟨f, r⟩ =
      ⟨⟨(arriveAll as f).state, r⟩, (arriveAll as f).out⟩ := by
  induction as generalizing f with
  | nil => rfl
  | cons a as ih =>
    have first : Checking.take (.arrive a) ⟨f, r⟩ =
        ⟨⟨(f.act a.request).state, r⟩, (f.act a.request).out⟩ := rfl
    rw [List.map_cons, play_cons, first, Emission.andThen, ih]
    rfl

/-- A table that has been disconnected for some time after some arrivals is one that none of them
reached. -/
theorem docket_arriveAll (taken : f.outlet = none) {as : List Arrival}
    (dated : ((arriveAll as f).state.docket tableId).Dated) :
    (∀ a ∈ as, ¬ a.Reaches tableId) ∧
      (arriveAll as f).state.docket tableId = f.docket tableId := by
  induction as generalizing f with
  | nil => exact ⟨by simp, rfl⟩
  | cons a as ih =>
    have taken' := (steps_act a.request f taken).outlet taken
    obtain ⟨missed, same⟩ := ih taken' dated
    have first : ((f.act a.request).state.docket tableId).Dated := same ▸ dated
    obtain ⟨spared, same'⟩ := docket_of_dated taken first
    exact ⟨List.forall_mem_cons.mpr ⟨spared, missed⟩, same.trans same'⟩

/-- Arrivals let no hand wait at a disconnected table, and they give no hand up. -/
theorem orderly_arriveAll (clear : Clear f) (sound : Sound f) (as : List Arrival) :
    Orderly (fun _ => False) (arriveAll as f) := by
  induction as generalizing f with
  | nil => exact ⟨clear, by simp [arriveAll, fusedOf]⟩
  | cons a as ih =>
    have first : Orderly (fun _ => False) (f.act a.request) := by
      have acted := orderly_act clear sound a.request
      refine ⟨acted.clear, fun r hr ended => ?_⟩
      cases a <;> exact Bool.false_ne_true (acted.givenUp r hr ended)
    exact first.andThen (ih first.clear (sound.steps (steps_act a.request f sound.outlet)))

/-! ### Hands that wait -/

/-- A hand waits at a table. -/
def Holds (tableId : TableId) (number : HandNumber) (f : Floor) : Prop :=
  ∃ t, f.tables[tableId]? = some t ∧ t.pending[number]? ≠ none

theorem holds_deliver (taken : f.outlet = none) {m : Table.Message}
    (h : Holds tableId number (f.deliver m recipient).state) :
    Holds tableId number f ∨ recipient = tableId ∧ m.observed? = some number := by
  cases ht : f.tables[recipient]? with
  | none =>
    rw [deliver_of_notOpen ht] at h
    exact .inl h
  | some t =>
    obtain ⟨u, hu, waits⟩ := h
    rw [deliver_of_open taken ht, getElem?_insert_eq_some_iff] at hu
    rcases hu with ⟨rfl, rfl⟩ | ⟨-, hu⟩
    · refine or_iff_not_imp_right.mpr fun unobserved => ⟨t, ht, fun idle => ?_⟩
      have never : (Table.Turn.message m).source? number = none :=
        Table.source?_message_eq_none_iff.mpr fun observed => unobserved ⟨rfl, observed⟩
      exact Table.not_accounts_take never idle (.inl (Option.isSome_iff_ne_none.mpr waits))
    · exact .inl ⟨u, hu, waits⟩

theorem holds_openTable {opened : TableId}
    (h : Holds tableId number (f.openTable opened).state) : Holds tableId number f := by
  cases ht : f.tables[opened]? with
  | none =>
    obtain ⟨u, hu, waits⟩ := h
    rw [openTable_of_notOpen ht, getElem?_insert_eq_some_iff] at hu
    rcases hu with ⟨-, rfl⟩ | ⟨-, hu⟩
    · simp [Table.opened] at waits
    · exact ⟨u, hu, waits⟩
  | some t =>
    rwa [openTable_of_open (by rw [ht]; rfl)] at h

theorem holds_arrive (taken : f.outlet = none) {source : Source} {heard : TableId}
    (h : Holds tableId number (f.arrive source heard).state) : Holds tableId number f := by
  unfold arrive at h
  simp only at h
  split at h
  · exact h
  · rcases holds_deliver (by exact taken) h with h | ⟨-, observed⟩
    · exact h
    · cases observed

theorem holds_receive (taken : f.outlet = none) {source : Source} {m : Table.Message}
    (h : Holds tableId number (((f.openTable recipient).andThen (arrive source recipient)).andThen
      (deliver m recipient)).state) :
    Holds tableId number f ∨ recipient = tableId ∧ m.observed? = some number := by
  have opened := (steps_openTable recipient f taken).outlet taken
  have arrived := (steps_arrive source recipient _ opened).outlet opened
  exact (holds_deliver arrived h).imp_left fun h => holds_openTable (holds_arrive opened h)

/-- Only a hand that an arrival observes begins to wait. -/
theorem holds_act (taken : f.outlet = none) (h : Holds tableId number (f.act a.request).state) :
    Holds tableId number f ∨ a.Observes tableId number := by
  cases a with
  | hand r =>
    obtain held | ⟨own, observed⟩ := holds_receive taken h
    · exact .inl held
    · exact .inr ⟨own, Option.some.inj observed⟩
  | sighting r =>
    cases valid : r.validate with
    | ok =>
      simp only [Arrival.request, act, attempt, admitSighting, valid] at h
      obtain held | ⟨own, observed⟩ := holds_receive taken h
      · exact .inl held
      · refine .inr ⟨own, Option.some.inj observed, ?_⟩
        rw [valid]
        rfl
    | error =>
      simp only [Arrival.request, act, attempt, admitSighting, valid] at h
      exact .inl h
  | hear heard source =>
    simp only [Arrival.request, act, attempt, hear] at h
    split at h
    · exact .inl (holds_arrive taken h)
    · exact .inl h

theorem holds_remove (taken : f.outlet = none) {removed : TableId}
    (h : Holds tableId number (f.remove removed).state) : Holds tableId number f := by
  unfold remove at h
  simp only at h
  split at h
  · cases ht : f.tables[removed]? with
    | none =>
      rw [Emission.state_after, closeTable_of_notOpen (by exact ht)] at h
      exact h
    | some t =>
      obtain ⟨u, hu, waits⟩ := h
      rw [Emission.state_after, closeTable_of_open (by exact taken) (by exact ht)] at hu
      exact ⟨u, ((getElem?_erase_eq_some_iff ..).mp hu).2, waits⟩
  · exact h

/-- A table that is removed has results for hands that waited there, and for no others. -/
theorem holds_of_mem_remove (sound : Sound f) {removed : TableId} {r : FusedHand}
    (h : r ∈ fusedOf (f.remove removed).out) :
    r.tableId = removed ∧ Holds removed r.handNumber f := by
  unfold remove at h
  simp only at h
  split at h
  · rw [Emission.out_after, fusedOf_append, fusedOf_of_idle rfl, List.nil_append] at h
    cases ht : f.tables[removed]? with
    | none =>
      rw [closeTable_of_notOpen (by exact ht)] at h
      cases h
    | some t =>
      rw [closeTable_of_open (by exact sound.outlet) (by exact ht), Table.fusedOf_effects] at h
      refine ⟨(Table.tableId_of_mem_results _ _ r h).trans (sound.named ht), t, ht, fun idle => ?_⟩
      have never : (Table.Turn.message .shutdown).source? r.handNumber = none := rfl
      exact Table.not_accounts_take never idle (.inr (List.mem_map_of_mem h))
  · cases h

/-! ### Removals -/

/-- How many steps a check takes while things happen. -/
def goes (ms : List Move) : Nat :=
  ms.countP fun m => m matches .goOn

theorem sound_take {c : Checking} (sound : Sound c.floor) (m : Move) :
    Sound (c.take m).state.floor := by
  obtain ⟨f, round⟩ := c
  cases m with
  | goOn =>
    cases round with
    | sweeping time => exact sound.steps (steps_sweep time f sound.outlet)
    | listing time => exact sound
    | removing tableIds =>
      cases tableIds with
      | nil => exact sound
      | cons tableId tableIds => exact sound.steps (steps_remove tableId f sound.outlet)
  | arrive a => exact sound.steps (steps_act a.request f sound.outlet)

theorem sound_play {c : Checking} (sound : Sound c.floor) (ms : List Move) :
    Sound (c.play ms).state.floor := by
  induction ms generalizing c with
  | nil => exact sound
  | cons m ms ih => exact ih (sound_take sound m)

/-- No hand waits at a disconnected table, whatever happens during a check. -/
theorem clear_take {c : Checking} (clear : Clear c.floor) (sound : Sound c.floor) (m : Move) :
    Clear (c.take m).state.floor := by
  obtain ⟨f, round⟩ := c
  cases m with
  | goOn =>
    cases round with
    | sweeping time => exact clear.sweep sound time
    | listing time => exact clear
    | removing tableIds =>
      cases tableIds with
      | nil => exact clear
      | cons tableId tableIds =>
        have removed : Quiets (fun _ => True) f (f.remove tableId) := quiets_remove sound trivial
        exact removed.clear clear
  | arrive a => exact (orderly_act clear sound a.request).clear

theorem clear_play {c : Checking} (clear : Clear c.floor) (sound : Sound c.floor)
    (ms : List Move) : Clear (c.play ms).state.floor := by
  induction ms generalizing c with
  | nil => exact clear
  | cons m ms ih => exact ih (clear_take clear sound m) (sound_take sound m)

/-- A hand is given up by a step of a check by which its table is removed, where it waited. -/
theorem givenUp_take {c : Checking} (clear : Clear c.floor) (sound : Sound c.floor) {m : Move}
    {r : FusedHand} (hr : r ∈ fusedOf (c.take m).out) (ended : r.resolution = .shutdown) :
    m = .goOn ∧ (∃ others, c.round = .removing (r.tableId :: others)) ∧
      Holds r.tableId r.handNumber c.floor := by
  obtain ⟨f, round⟩ := c
  cases m with
  | goOn =>
    cases round with
    | sweeping time => exact absurd ended (resolution_ne_shutdown_sweep sound time r hr)
    | listing time => cases hr
    | removing tableIds =>
      cases tableIds with
      | nil => cases hr
      | cons tableId others =>
        obtain ⟨rfl, waited⟩ := holds_of_mem_remove sound hr
        exact ⟨rfl, ⟨others, rfl⟩, waited⟩
  | arrive a =>
    have closed := (orderly_act clear sound a.request).givenUp r hr ended
    cases a <;> cases closed

/-- One thing that happens while tables are removed: the next one is, or something arrives. -/
theorem state_take (m : Move) (f : Floor) (tableIds : List TableId) :
    (Checking.take m ⟨f, .removing tableIds⟩).state =
      ⟨(Checking.take m ⟨f, .removing tableIds⟩).state.floor,
        .removing (tableIds.drop (goes [m]))⟩ := by
  cases m with
  | goOn =>
    have next : tableIds.tail = tableIds.drop 1 := List.drop_one.symm
    exact congrArg (fun ids => Checking.mk _ (.removing ids)) next
  | arrive a => rfl

/-- Once the tables that are to be removed are listed, they are removed in turn, whatever arrives. -/
theorem round_play (ms : List Move) (f : Floor) (tableIds : List TableId) :
    (Checking.play ms ⟨f, .removing tableIds⟩).state.round =
      .removing (tableIds.drop (goes ms)) := by
  induction ms generalizing f tableIds with
  | nil => rfl
  | cons m ms ih =>
    have all : goes (m :: ms) = goes [m] + goes ms := by
      simp [goes, List.countP_cons, Nat.add_comm]
    rw [play_cons, Emission.state_andThen, state_take, ih, List.drop_drop, all]

theorem holds_take {m : Move} {tableIds : List TableId} (taken : f.outlet = none)
    (h : Holds tableId number (Checking.take m ⟨f, .removing tableIds⟩).state.floor) :
    Holds tableId number f ∨ ∃ a, .arrive a = m ∧ a.Observes tableId number := by
  cases m with
  | goOn =>
    cases tableIds with
    | nil => exact .inl h
    | cons removed tableIds => exact .inl (holds_remove taken h)
  | arrive a => exact (holds_act taken h).imp_right fun observed => ⟨a, rfl, observed⟩

/-- While tables are removed, only a hand that an arrival observes begins to wait. -/
theorem holds_play {ms : List Move} {tableIds : List TableId} (sound : Sound f)
    (h : Holds tableId number (Checking.play ms ⟨f, .removing tableIds⟩).state.floor) :
    Holds tableId number f ∨ ∃ a, .arrive a ∈ ms ∧ a.Observes tableId number := by
  induction ms generalizing f tableIds with
  | nil => exact .inl h
  | cons m ms ih =>
    have sound' := sound_take (c := ⟨f, .removing tableIds⟩) sound m
    rw [play_cons, Emission.state_andThen, state_take] at h
    rcases ih sound' h with h | ⟨a, later, observed⟩
    · rcases holds_take sound.outlet h with h | ⟨a, rfl, observed⟩
      · exact .inl h
      · exact .inr ⟨a, List.mem_cons_self, observed⟩
    · exact .inr ⟨a, List.mem_cons_of_mem m later, observed⟩

/-! ### Checks -/

/-- A check for a given time that has swept the floor, when some things arrived after that and it is
about to look for the tables that are overdue. -/
def swept (time : Nat) (between : List Arrival) (f : Floor) : Emission Checking Effect :=
  Checking.play (.goOn :: between.map .arrive) ⟨f, .sweeping time⟩

/-- The check after it has looked for these tables, when some more things happened. -/
def listed (time : Nat) (between : List Arrival) (after : List Move) (f : Floor) :
    Emission Checking Effect :=
  (swept time between f).andThen (Checking.play (.goOn :: after))

theorem swept_eq (time : Nat) (between : List Arrival) (f : Floor) :
    swept time between f =
      ⟨⟨(arriveAll between (f.sweep time).state).state, .listing time⟩,
        ((f.sweep time).andThen (arriveAll between)).out⟩ := by
  have first : Checking.take .goOn ⟨f, .sweeping time⟩ =
      ⟨⟨(f.sweep time).state, .listing time⟩, (f.sweep time).out⟩ := rfl
  rw [swept, play_cons, first, Emission.andThen, play_arrive]
  rfl

theorem state_listed (time : Nat) (between : List Arrival) (after : List Move) (f : Floor) :
    (listed time between after f).state =
      (Checking.play after ⟨(swept time between f).state.floor,
        .removing ((swept time between f).state.floor.overdue time)⟩).state := by
  rw [listed, swept_eq]
  rfl

/-- What can be said of a check that goes on while things happen. -/
structure Proceeds (time : Nat) (between : List Arrival) (after : List Move) (f : Floor) :
    Prop where
  /-- A table that is heard of between the sweep and the look for tables that are overdue is not
  one of these. -/
  spares : ∀ a ∈ between, ∀ tableId, a.Reaches tableId →
    tableId ∉ (swept time between f).state.floor.overdue time
  /-- Until then no hand is given up. -/
  keeps : ∀ r ∈ fusedOf (swept time between f).out, r.resolution ≠ .shutdown
  /-- Just the tables that are overdue then are removed, each in its turn. -/
  removes : (listed time between after f).state.round =
    .removing (((swept time between f).state.floor.overdue time).drop (goes after))
  /-- A hand is given up only when its table is removed, and only if it was observed after the
  look for tables that are overdue. -/
  givesUp : ∀ m, ∀ r ∈ fusedOf ((listed time between after f).state.take m).out,
    r.resolution = .shutdown →
      m = .goOn ∧
      (∃ others, (listed time between after f).state.round = .removing (r.tableId :: others)) ∧
      ∃ a, .arrive a ∈ after ∧ a.Observes r.tableId r.handNumber

/-- A table that is overdue after some arrivals was found disconnected by the sweep, and none of
them reached it. -/
theorem status?_of_mem_overdue (sound : Sound f) {time : Nat} {between : List Arrival}
    (late : tableId ∈ (swept time between f).state.floor.overdue time) :
    (∀ a ∈ between, ¬ a.Reaches tableId) ∧
      (swept time between f).state.floor.status? tableId = some .disconnected := by
  rw [swept_eq] at late ⊢
  have dated := Docket.dated_of_isOverdue ((mem_overdue_iff time).mp late)
  have taken := (steps_sweep time f sound.outlet).outlet sound.outlet
  obtain ⟨missed, same⟩ := docket_arriveAll taken dated
  refine ⟨missed, ?_⟩
  rw [same, docket_sweep sound.outlet] at dated
  have silent := Docket.status_of_dated_sweep dated
  rw [← docket_sweep sound.outlet, ← same] at silent
  exact silent

theorem orderly_swept (clear : Clear f) (sound : Sound f) (time : Nat) (between : List Arrival) :
    Orderly (fun _ => False) ((f.sweep time).andThen (arriveAll between)) := by
  have first : Orderly (fun _ => False) (f.sweep time) :=
    ⟨clear.sweep sound time, fun r hr ended =>
      resolution_ne_shutdown_sweep sound time r hr ended⟩
  exact first.andThen <|
    orderly_arriveAll first.clear (sound.steps (steps_sweep time f sound.outlet)) between

/-- **A check of health spares who is heard of in time.** Whoever is not, is removed, and hands that
were observed after the list was made are given up with their tables; no others are. -/
theorem proceeds_of_run (s : Settings) (calendar : Nat → UtcTime) (qs : List Request) (time : Nat)
    (between : List Arrival) (after : List Move) :
    Proceeds time between after (run qs (opened s calendar)).state := by
  have sound := sound_run s calendar qs
  have clear := clear_run s calendar qs
  generalize (run qs (opened s calendar)).state = f at sound clear
  have removes : (listed time between after f).state.round =
      .removing (((swept time between f).state.floor.overdue time).drop (goes after)) := by
    rw [state_listed, round_play]
  refine ⟨fun a ha tableId reached late => ?_, fun r hr ended => ?_, removes,
    fun m r hr ended => ?_⟩
  · exact (status?_of_mem_overdue sound late).1 a ha reached
  · rw [swept_eq] at hr
    exact (orderly_swept clear sound time between).givenUp r hr ended
  · have sound' : Sound (swept time between f).state.floor := sound_play sound _
    have clear' : Clear (swept time between f).state.floor := clear_play clear sound _
    have soundThen : Sound (listed time between after f).state.floor := sound_play sound' _
    have clearThen : Clear (listed time between after f).state.floor :=
      clear_play clear' sound' _
    obtain ⟨rfl, ⟨others, now⟩, waits⟩ := givenUp_take clearThen soundThen hr ended
    refine ⟨rfl, ⟨others, now⟩, ?_⟩
    have late : r.tableId ∈ (swept time between f).state.floor.overdue time := by
      rw [removes] at now
      exact List.mem_of_mem_drop (Round.removing.inj now ▸ List.mem_cons_self)
    rw [state_listed] at waits
    rcases holds_play sound' waits with ⟨t, ht, waited⟩ | observed
    · exact absurd ⟨t, ht, r.handNumber, waited⟩
        (clear' r.tableId (status?_of_mem_overdue sound late).2)
    · exact observed

/-! ### Heard of too late -/

/-- Two tables fall silent, and at last both are overdue. -/
def bothSilent : List Request :=
  [.hand { reading with tableId := "T0" }, .hand reading, .advance 2000, .check 2000,
    .advance 600000]

/-- The first of them is removed. Meanwhile both sources of the second one deliver again, one of
them with a hand. -/
def revives : List Move :=
  [.goOn, .arrive (.hear "T1" .primary), .arrive (.sighting { sighted with handNumber := 8 })]

/-- **Who is heard of too late is removed**, and with the table goes the hand that was observed. -/
theorem revived_of_round :
    ¬ (∀ (s : Settings) (calendar : Nat → UtcTime) (qs : List Request) (time : Nat)
        (between : List Arrival) (after : List Move) (tableId : TableId) (others : List TableId),
      (∃ a, .arrive a ∈ after ∧ a.Reaches tableId) →
        (listed time between after (run qs (opened s calendar)).state).state.round ≠
          .removing (tableId :: others)) ∧
    ¬ (∀ (s : Settings) (calendar : Nat → UtcTime) (qs : List Request) (time : Nat)
        (between : List Arrival) (after : List Move) (tableId : TableId) (number : HandNumber),
      (∃ a, .arrive a ∈ after ∧ a.Observes tableId number) →
        (tableId, number, .shutdown) ∉
          (fusedOf ((listed time between after (run qs (opened s calendar)).state).state.take
            .goOn).out).map fun r => (r.tableId, r.handNumber, r.resolution)) := by
  have removed : (listed 602000 [] revives (run bothSilent
      (opened (.usual 1000 2000) fun _ => .epoch)).state).state.round = .removing ["T1"] := by
    decide +kernel
  have givenUp : (("T1", 8, .shutdown) : TableId × HandNumber × Resolution) ∈
      (fusedOf ((listed 602000 [] revives (run bothSilent
        (opened (.usual 1000 2000) fun _ => .epoch)).state).state.take .goOn).out).map
          fun r => (r.tableId, r.handNumber, r.resolution) := by
    decide +kernel
  refine ⟨fun claimed => ?_, fun claimed => ?_⟩
  · exact claimed _ _ _ _ _ _ "T1" [] ⟨.hear "T1" .primary, by simp [revives], rfl⟩ removed
  · exact claimed _ _ _ _ _ _ "T1" 8
      ⟨.sighting { sighted with handNumber := 8 }, by simp [revives], rfl, rfl, by decide +kernel⟩
      givenUp

end Floor

end Showdown
