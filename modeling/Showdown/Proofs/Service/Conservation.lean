import Showdown.Proofs.Bus
import Showdown.Proofs.Classification
import Showdown.Proofs.Floor.Accounts
import Showdown.Proofs.Grading
import Showdown.Service.Request

/-!
# From observations to events

Whatever is asked of the service is done on its floor, and what the floor hands on is graded and
published (`Follows`). So what holds of the floor, that no observed hand is lost and every result
is counted, holds of the graded hands that subscribers hear of: a service that is run and stopped
has published, for each result, one graded hand, and right after it one broadcastable hand if the
grade is one of the two best (`conserves_of_stopped`).
-/

namespace Showdown

open Effect

/-! ### What the floor publishes by itself -/

namespace Floor

/-- The floor itself publishes nothing about results. -/
def NoVerdict (out : List Effect) : Prop :=
  ∀ e, .event e ∈ out → e.isVerdict = false

theorem noVerdict_of_onlyFused {out : List Effect} (h : OnlyFused out) : NoVerdict out := by
  intro e he
  rcases h _ he with idle | ⟨r, eq⟩
  · simpa [isIdle] using idle
  · cases eq

theorem StepOf.noVerdict {kind : Table.Message → Prop} {f : Floor} {e : Emission Floor Effect}
    (s : StepOf kind f e) : NoVerdict e.out := by
  cases s with
  | aside h => exact noVerdict_of_onlyFused (onlyFused_of_idle h.idle)
  | send _ h => exact h.out ▸ noVerdict_of_onlyFused (Table.onlyFused_handle _ _)
  | opening h => simp [NoVerdict, h.out]
  | closing h => exact h.out ▸ noVerdict_of_onlyFused (Table.onlyFused_handle _ _)

theorem Steps.noVerdict {f : Floor} {e : Emission Floor Effect} (s : Steps f e) :
    NoVerdict e.out := by
  refine Chain.ensures (P := fun _ out => NoVerdict out) (fun step h x hx => ?_) s
    (by simp [NoVerdict])
  exact (List.mem_append.mp hx).elim (h x) (step.noVerdict x)

end Floor

namespace Service

/-! ### What becomes of effects -/

/-- What becomes of an effect of the floor. -/
def aftermath (c : GradingCriteria) : Effect → List Effect
  | .fused r => .fused r :: .note (.graded r (Grading.grade r c)) :: (eventsOf c r).map .event
  | .event e => [.event e]
  | .note n => [.note n]

theorem filterMap_event? (events : List Event) :
    (events.map Effect.event).filterMap event? = events := by
  rw [List.filterMap_map]
  exact List.filterMap_some

/-- The service after some effects: the events among them are published. -/
def publishing (s : Service) (out : List Effect) : Service :=
  { s with bus := s.bus.publishAll (out.filterMap event?) }

theorem publishing_append (s : Service) (out out' : List Effect) :
    s.publishing (out ++ out') = (s.publishing out).publishing out' := by
  simp [publishing, Bus.publishAll]

theorem absorb_eq (e : Effect) (s : Service) :
    absorb e s = ⟨s.publishing (aftermath s.settings.criteria e),
      aftermath s.settings.criteria e⟩ := by
  cases e with
  | fused r =>
    have published : (aftermath s.settings.criteria (.fused r)).filterMap event? =
        eventsOf s.settings.criteria r := filterMap_event? _
    rw [publishing, published]
    rfl
  | event | note => rfl

theorem forEach_absorb (out : List Effect) (s : Service) :
    Emission.forEach absorb out s = ⟨s.publishing (out.flatMap (aftermath s.settings.criteria)),
      out.flatMap (aftermath s.settings.criteria)⟩ := by
  induction out generalizing s with
  | nil => rfl
  | cons e out ih =>
    rw [Emission.forEach_cons, absorb_eq, Emission.andThen, ih, List.flatMap_cons,
      publishing_append]
    rfl

theorem fusedOf_aftermath (c : GradingCriteria) (out : List Effect) :
    fusedOf (out.flatMap (aftermath c)) = fusedOf out := by
  have single (e : Effect) : fusedOf (aftermath c e) = e.fused?.toList := by
    cases e with
    | fused r => simp [aftermath, fusedOf, fused?]
    | event | note => rfl
  induction out with
  | nil => rfl
  | cons e out ih =>
    rw [List.flatMap_cons, fusedOf_append, ih, single]
    cases e <;> rfl

/-- Of the events, those that tell of results are those that the results give rise to. -/
theorem verdicts_aftermath (c : GradingCriteria) {out : List Effect} (h : Floor.NoVerdict out) :
    ((out.flatMap (aftermath c)).filterMap event?).filter Event.isVerdict =
      (fusedOf out).flatMap (eventsOf c) := by
  have told (r : FusedHand) : (eventsOf c r).filter Event.isVerdict = eventsOf c r := by
    refine List.filter_eq_self.mpr fun e he => ?_
    simp only [eventsOf, List.mem_cons] at he
    rcases he with rfl | he
    · rfl
    · split at he <;> simp_all [Event.isVerdict]
  induction out with
  | nil => rfl
  | cons e out ih =>
    rw [List.flatMap_cons, List.filterMap_append, List.filter_append,
      ih fun x hx => h x (List.mem_cons_of_mem _ hx)]
    cases e with
    | fused r =>
      have published : (aftermath c (.fused r)).filterMap event? = eventsOf c r :=
        filterMap_event? _
      rw [published, told]
      rfl
    | event x =>
      have silent : x.isVerdict = false := h x (by simp)
      have untold : ((aftermath c (.event x)).filterMap event?).filter Event.isVerdict = [] := by
        simp [aftermath, event?, silent]
      rw [untold]
      rfl
    | note n => rfl

/-! ### Following the floor -/

/-- What the service does is done on its floor, where some hands are observed by it, and what comes
of it there is graded and published. -/
structure Follows (hands : List HandId) (s : Service) (e : Emission Service Effect) : Prop where
  /-- The settings stay. -/
  settings : e.state.settings = s.settings
  /-- All events go to the bus. -/
  bus : e.state.bus = s.bus.publishAll (e.out.filterMap event?)
  /-- Of the events, those that tell of results are those that the results give rise to. -/
  verdicts : (e.out.filterMap event?).filter Event.isVerdict =
    (fusedOf e.out).flatMap (eventsOf s.settings.criteria)
  /-- It is done on the floor. -/
  floor : ∃ out, fusedOf out = fusedOf e.out ∧ Floor.Serves hands s.floor ⟨e.state.floor, out⟩

theorem follows_quiet (s : Service) : Follows [] s (.quiet s) :=
  ⟨rfl, rfl, rfl, [], rfl, Floor.Steps.serves (.refl s.floor)⟩

theorem follows_onFloor {hands : List HandId} {f : Floor → Emission Floor Effect} {s : Service}
    (h : Floor.Serves hands s.floor (f s.floor)) : Follows hands s (s.onFloor f) := by
  rw [onFloor, forEach_absorb]
  refine ⟨rfl, rfl, ?_, (f s.floor).out, (fusedOf_aftermath _ _).symm, h⟩
  rw [fusedOf_aftermath]
  exact verdicts_aftermath _ h.steps.noVerdict

theorem Follows.andThen {hands hands' : List HandId} {s : Service} {e : Emission Service Effect}
    {g : Service → Emission Service Effect} (h : Follows hands s e)
    (h' : Follows hands' e.state (g e.state)) : Follows (hands ++ hands') s (e.andThen g) := by
  obtain ⟨out, same, serves⟩ := h.floor
  obtain ⟨out', same', serves'⟩ := h'.floor
  refine ⟨h'.settings.trans h.settings, ?_, ?_, out ++ out', ?_, ?_⟩
  · rw [Emission.state_andThen, h'.bus, h.bus, Emission.out_andThen, List.filterMap_append]
    exact List.foldl_append.symm
  · rw [Emission.out_andThen, List.filterMap_append, List.filter_append, h.verdicts, h'.verdicts,
      h.settings, fusedOf_append, List.flatMap_append]
  · rw [fusedOf_append, same, same', Emission.out_andThen, fusedOf_append]
  · exact serves.andThen (g := fun _ => ⟨(g e.state).state.floor, out'⟩) serves'

theorem Follows.andThen_nothing {hands : List HandId} {s : Service} {e : Emission Service Effect}
    {g : Service → Emission Service Effect} (h : Follows hands s e)
    (h' : Follows [] e.state (g e.state)) : Follows hands s (e.andThen g) := by
  simpa using h.andThen h'

/-- Notes do not matter. -/
theorem Follows.after {hands : List HandId} {s : Service} {e : Emission Service Effect}
    (h : Follows hands s e) {notes : List Effect} (only : ∀ x ∈ notes, ∃ n, x = .note n) :
    Follows hands s (e.after notes) := by
  have no_event : notes.filterMap event? = [] := by
    refine List.filterMap_eq_nil_iff.mpr fun x hx => ?_
    obtain ⟨n, rfl⟩ := only x hx
    rfl
  have no_result : fusedOf notes = [] := by
    refine List.filterMap_eq_nil_iff.mpr fun x hx => ?_
    obtain ⟨n, rfl⟩ := only x hx
    rfl
  refine ⟨h.settings, ?_, ?_, ?_⟩
  all_goals simp only [Emission.state_after, Emission.out_after, List.filterMap_append, no_event,
    fusedOf_append, no_result, List.nil_append]
  · exact h.bus
  · exact h.verdicts
  · exact h.floor

theorem Follows.outlet {hands : List HandId} {s : Service} {e : Emission Service Effect}
    (h : Follows hands s e) (taken : s.floor.outlet = none) : e.state.floor.outlet = none := by
  obtain ⟨out, -, serves⟩ := h.floor
  exact serves.steps.outlet taken

theorem Follows.forEach {α : Type} {hands : α → List HandId}
    {f : α → Service → Emission Service Effect}
    (h : ∀ a (s : Service), s.floor.outlet = none → Follows (hands a) s (f a s)) (as : List α) :
    ∀ s : Service, s.floor.outlet = none →
      Follows (as.flatMap hands) s (Emission.forEach f as s) := by
  induction as with
  | nil => exact fun s _ => follows_quiet s
  | cons a as ih => exact fun s taken => (h a s taken).andThen (ih _ ((h a s taken).outlet taken))

/-! ### Requests -/

/-- The hand that a request is an observation of, unless it is refused or no hand is ranked. -/
def Request.observed? : Request → Option HandId
  | .record r => (Classification.ofRecord r).strongest?.map fun _ => ⟨r.tableId, r.handNumber⟩
  | .sighting r =>
    match r.validate with
    | .ok () => some r.id
    | .error _ => none
  | .floor q => q.observed?
  | .advance _ | .check => none

theorem follows_takeRecord (r : HandRecord) {s : Service} (taken : s.floor.outlet = none) :
    Follows (Request.record r).observed?.toList s (s.takeRecord r) := by
  rw [takeRecord, takeClassified, Request.observed?]
  cases hb : (Classification.ofRecord r).strongest? with
  | some best =>
    rw [Option.map_some, ← Classification.id_of_mem (Classification.strongest?_spec hb).1]
    refine (follows_onFloor (Floor.serves_receiveHand best taken)).after fun x hx => ?_
    obtain ⟨entry, -, rfl⟩ := List.mem_map.mp hx
    exact ⟨_, rfl⟩
  | none =>
    refine (follows_onFloor (Floor.steps_hear _ _ _ taken).serves).after fun x hx => ?_
    rcases List.mem_append.mp hx with hx | hx
    · obtain ⟨entry, -, rfl⟩ := List.mem_map.mp hx
      exact ⟨_, rfl⟩
    · exact ⟨_, List.mem_singleton.mp hx⟩

theorem follows_advanceTo (time : Nat) (s : Service) (taken : s.floor.outlet = none) :
    Follows [] s (s.onFloor (Floor.advanceTo time)) :=
  follows_onFloor (Floor.steps_advanceTo time _ taken).serves

theorem follows_check (s : Service) (taken : s.floor.outlet = none) : Follows [] s s.check :=
  follows_onFloor (Floor.steps_check _ _ taken).serves

theorem follows_checkAt (time : Nat) (s : Service) (taken : s.floor.outlet = none) :
    Follows [] s (s.checkAt time) :=
  (follows_advanceTo time s taken).andThen_nothing
    (follows_check _ ((follows_advanceTo time s taken).outlet taken))

theorem follows_advance (ms : Nat) {s : Service} (taken : s.floor.outlet = none) :
    Follows [] s (s.advance ms) := by
  have checked : Follows [] s (s.checkUpTo (s.floor.now + ms)) := by
    have each := Follows.forEach follows_checkAt
      (s.checkTimes s.floor.now (s.floor.now + ms)) s taken
    rwa [List.flatMap_eq_nil_iff.mpr fun _ _ => rfl] at each
  exact checked.andThen_nothing (follows_advanceTo _ _ (checked.outlet taken))

/-- **Every request is done on the floor, and the hand it is an observation of is observed
there.** -/
theorem follows_perform (q : Request) (s : Service) (taken : s.floor.outlet = none) :
    Follows q.observed?.toList s (s.perform q) := by
  cases q with
  | record r => exact follows_takeRecord r taken
  | sighting r =>
    cases h : r.validate with
    | ok =>
      simp only [perform, attempt, takeSighting, Request.observed?, h]
      exact follows_onFloor (Floor.serves_receiveSighting r taken)
    | error =>
      simp only [perform, attempt, takeSighting, Request.observed?, h]
      exact follows_quiet s
  | advance ms => exact follows_advance ms taken
  | check => exact follows_check s taken
  | floor q => exact follows_onFloor (Floor.serves_act q taken)

theorem follows_run (qs : List Request) (s : Service) (taken : s.floor.outlet = none) :
    Follows (qs.filterMap Request.observed?) s (s.run qs) := by
  have observed : qs.flatMap (fun q => q.observed?.toList) = qs.filterMap Request.observed? := by
    rw [List.filterMap_eq_flatMap_toList]
  exact observed ▸ Follows.forEach follows_perform qs s taken

theorem follows_stop (s : Service) (taken : s.floor.outlet = none) : Follows [] s s.stop := by
  have closed := follows_onFloor (Floor.steps_closeAll s.floor taken).serves
  have said (s : Service) : Follows [] s ((Emission.quiet s).after
      [.note .gradingDone, .note (.stopped s.floor.closedTally)]) :=
    (follows_quiet s).after (by simp)
  exact closed.andThen_nothing (said _)

theorem floor_stop (s : Service) : s.stop.state.floor = s.floor.closeAll.state := by
  rw [stop, Emission.state_andThen, onFloor, forEach_absorb]
  rfl

/-! ### Services that are run and stopped -/

/-- The events that tell of a result: the graded hand and, if the grade is one of the two best, the
broadcastable hand. -/
def verdicts (c : GradingCriteria) (r : FusedHand) : List Event :=
  let grading := Grading.grade r c
  .graded r grading ::
    if grading.result.grade = .a ∨ grading.result.grade = .b then [.broadcastable r grading.result]
    else []

theorem eventsOf_eq (c : GradingCriteria) (r : FusedHand) : eventsOf c r = verdicts c r := by
  have eligible : (Grading.grade r c).result.broadcastEligible =
      (Grading.grade r c).result.grade.isBroadcastable := by
    rw [Grading.result_grade]
    rfl
  rw [eventsOf, verdicts, eligible]
  congr 1
  cases (Grading.grade r c).result.grade <;> rfl

/-- Grading says of a hand that it is premium if it is. -/
theorem premiumHand_eq (settings : Settings) (r : FusedHand) :
    (Grading.grade r settings.criteria).result.premiumHand = r.isPremium := by
  rw [Grading.result_grade]
  unfold Grading.findings Grading.premium? FusedHand.isPremium
  cases r.category <;> rfl

/-- Nothing is lost, made up or miscounted between the hands that were observed and the events, for
a service that started with a given bus. -/
structure Conserves (settings : Settings) (observed : List HandId) (b : Bus)
    (e : Emission Service Effect) : Prop where
  /-- All events go to the bus. -/
  published : e.state.bus = b.publishAll (e.out.filterMap event?)
  /-- Whoever has subscribed to all events and keeps up hears, of the events that tell of results,
  those of each result, in the order of the results. -/
  heard : ∀ id turns, b.get? id = some (.fresh .all) →
    turns.filterMap Bus.Turn.published? = e.out.filterMap event? → Bus.KeepsUp id turns b →
    ((Bus.play id turns b).out ++ (Bus.play id turns b).state.unread id).filter Event.isVerdict =
      (fusedOf e.out).flatMap (verdicts settings.criteria)
  /-- A graded hand is said to be premium if it is. -/
  premium : ∀ r ∈ fusedOf e.out,
    (Grading.grade r settings.criteria).result.premiumHand = r.isPremium
  /-- Every observed hand is graded. -/
  graded : ∀ hand ∈ observed, ∃ r g, Effect.event (.graded r g) ∈ e.out ∧ r.id = hand
  /-- The counters that are left count the results. -/
  counted : e.state.floor.closedTally = (fusedOf e.out).foldl Tally.add .zero

theorem mem_out_of_mem_fused {hands : List HandId} {s : Service} {e : Emission Service Effect}
    (h : Follows hands s e) {r : FusedHand} (hr : r ∈ fusedOf e.out) :
    Effect.event (.graded r (Grading.grade r s.settings.criteria)) ∈ e.out := by
  have told : .graded r (Grading.grade r s.settings.criteria) ∈
      (e.out.filterMap event?).filter Event.isVerdict := by
    rw [h.verdicts]
    exact List.mem_flatMap.mpr ⟨r, hr, List.mem_cons_self⟩
  obtain ⟨x, hx, published⟩ := List.mem_filterMap.mp (List.mem_filter.mp told).1
  cases x with
  | event e => exact Option.some.inj published ▸ hx
  | fused | note => cases published

/-- A service that starts has nothing yet but its settings. -/
theorem eq_of_start {settings : Settings} {calendar : Nat → UtcTime}
    {started : Emission Service Effect} (h : start settings calendar = .ok started) :
    started = ⟨⟨settings, .opened settings calendar, .empty⟩, [.note (.started settings)]⟩ := by
  unfold start at h
  split at h
  · cases h
  · exact (Except.ok.inj h).symm

/-- **Between the hands that are observed and the graded hands that subscribers hear of, nothing is
lost, made up or miscounted**, whatever is asked of a service before it is stopped. -/
theorem conserves_of_stopped {settings : Settings} {calendar : Nat → UtcTime}
    {started : Emission Service Effect} (h : start settings calendar = .ok started)
    (qs : List Request) (b : Bus) :
    Conserves settings (qs.filterMap Request.observed?) b
      ((run qs { started.state with bus := b }).andThen stop) := by
  obtain rfl := eq_of_start h
  set s₀ : Service := ⟨settings, .opened settings calendar, b⟩ with hs₀
  set e := (run qs s₀).andThen stop with he
  have ran := follows_run qs s₀ rfl
  have stopped := ran.andThen_nothing (follows_stop _ (ran.outlet rfl))
  obtain ⟨out, same, serves⟩ := stopped.floor
  refine ⟨stopped.bus, fun id turns subscribed all keepsUp => ?_, fun r _ => premiumHand_eq _ r,
    fun hand observed => ?_, ?_⟩
  · have everything : (e.out.filterMap event?).filter Topic.all.covers = e.out.filterMap event? :=
      List.filter_eq_self.mpr fun _ _ => rfl
    rw [Bus.read_append_unread id turns subscribed rfl rfl keepsUp, all]
    refine (congrArg (List.filter Event.isVerdict) everything).trans (stopped.verdicts.trans ?_)
    exact congrArg (List.flatMap · _) (funext (eventsOf_eq _))
  · have accounts := serves.accounts hand observed [] (Floor.lifetimes_opened settings calendar)
    rw [List.nil_append, Emission.state_andThen, floor_stop] at accounts
    obtain ⟨r, hr, id⟩ := accounts.of_closeAll
    exact ⟨r, _, mem_out_of_mem_fused stopped (same ▸ hr), id⟩
  · have counted := (Floor.counted_opened settings calendar).steps serves.steps
    rw [List.nil_append, Floor.Counted, same] at counted
    rw [← counted, Emission.state_andThen, floor_stop, Floor.totalTally_closeAll]

/-- A service with the usual settings starts. -/
theorem start_usual : start (.usual 1000 2000) (fun _ => .epoch) =
    .ok ⟨⟨.usual 1000 2000, .opened (.usual 1000 2000) fun _ => .epoch, .empty⟩,
      [.note (.started (.usual 1000 2000))]⟩ := by
  have valid : (Settings.usual 1000 2000).fault?.isNone = true := by decide +kernel
  rw [start, Settings.validate, Option.isNone_iff_eq_none.mp valid]

/-- A sighting without a category. -/
def glimpse : Sighting :=
  { tableId := "T1", handNumber := 7, category := none, confidence := 0.5, observedAt := .epoch }

/-- A bus with one subscriber, to all events. -/
def heeded : Bus :=
  (Bus.empty.subscribe .all).1

/-- A hand that only the video shows is graded when the service is stopped, and a subscriber to all
events hears of it. -/
theorem conserves_of_glimpse : ∃ started,
    start (.usual 1000 2000) (fun _ => .epoch) = .ok started ∧
      Conserves (.usual 1000 2000) [⟨"T1", 7⟩] heeded
        ((run [.sighting glimpse] { started.state with bus := heeded }).andThen stop) := by
  have observed : [Request.sighting glimpse].filterMap Request.observed? = [⟨"T1", 7⟩] := by
    decide +kernel
  exact ⟨_, start_usual, observed ▸ conserves_of_stopped start_usual [.sighting glimpse] heeded⟩

end Service

end Showdown
