import Showdown.Proofs.Service.Conservation
import Showdown.Proofs.Table.Coherence
import Showdown.Service.Haste

/-!
# Every result of the service makes sense

The service lets nothing through to its tables that is not credible: the card readings that it sends
are those of classified records, which are certain, and a sighting is refused unless its confidence
is one. So whatever is done to it, in whatever order, is done on the floor in steps that send only
what is credible (`OnFloor`), the tables hand on only coherent results, and the service publishes
none but these (`coherent_of_run`).

This is not so if card readings are sent to the floor past the service.
-/

namespace Showdown

open Effect

instance : Floor.Routine Table.Message.IsCredible where
  health _ _ := trivial
  expired _ _ := trivial

/-! ### The floor -/

namespace Floor

variable {f : Floor} {e : Emission Floor Effect} {threshold : Float}

/-- The tables use the video from a threshold on, those to come included, and hold what is
credible. -/
structure Trusts (threshold : Float) (f : Floor) : Prop where
  /-- The tables to come. -/
  settings : f.settings.policy.secondaryThreshold = threshold
  /-- The tables that are open. -/
  tables : ∀ (tableId : TableId) t, f.tables[tableId]? = some t → t.Trusts threshold

theorem trusts_opened (s : Settings) (calendar : Nat → UtcTime) :
    (opened s calendar).Trusts s.policy.secondaryThreshold :=
  ⟨rfl, fun tableId t ht => by simp [opened] at ht⟩

/-- Some effects hand on only coherent results. -/
def Coherent (threshold : Float) (out : List Effect) : Prop :=
  ∀ r ∈ fusedOf out, r.Coherent threshold

/-- A table makes something of what is credible. -/
theorem coherent_handle {t : Table} (h : t.Trusts threshold) {m : Table.Message}
    (hm : m.IsCredible) :
    Coherent threshold ((t.handle m).out.filterMap Table.Output.effect?) := by
  rw [Coherent, Table.fusedOf_effects]
  exact h.coherent_of_mem (u := .message m) hm

/-- A step that sends only what is credible leaves it at that, and hands on only what is
coherent. -/
theorem Trusts.step (h : f.Trusts threshold) (s : StepOf Table.Message.IsCredible f e) :
    e.state.Trusts threshold ∧ Coherent threshold e.out := by
  cases s with
  | aside a =>
    refine ⟨⟨a.settings ▸ h.settings, a.tables ▸ h.tables⟩, ?_⟩
    simp [Coherent, fusedOf_of_idle a.idle]
  | @send m tableId t hm s =>
    have trusts := h.tables tableId t s.isOpen
    refine ⟨⟨s.settings ▸ h.settings, fun other u hu => ?_⟩, s.out ▸ coherent_handle trusts hm⟩
    rw [s.tables] at hu
    rcases (getElem?_insert_eq_some_iff ..).mp hu with ⟨-, rfl⟩ | ⟨-, hu⟩
    · exact trusts.take (u := .message m) hm
    · exact h.tables other u hu
  | @opening tableId o =>
    refine ⟨⟨o.settings ▸ h.settings, fun other u hu => ?_⟩, ?_⟩
    · rw [o.tables] at hu
      rcases (getElem?_insert_eq_some_iff ..).mp hu with ⟨-, rfl⟩ | ⟨-, hu⟩
      · exact h.settings ▸ Table.trusts_opened tableId f.settings
      · exact h.tables other u hu
    · simp [Coherent, o.out, fusedOf, fused?]
  | @closing tableId t c =>
    have trusts := h.tables tableId t c.isOpen
    refine ⟨⟨c.settings ▸ h.settings, fun other u hu => ?_⟩,
      c.out ▸ coherent_handle trusts (m := .shutdown) trivial⟩
    rw [c.tables] at hu
    exact h.tables other u ((getElem?_erase_eq_some_iff ..).mp hu).2

theorem Trusts.coherent_of_steps (h : f.Trusts threshold)
    (s : StepsOf Table.Message.IsCredible f e) : Coherent threshold e.out := by
  refine (Chain.ensures (P := fun f out => f.Trusts threshold ∧ Coherent threshold out)
    (fun {_ _ out} step h => ?_) s ⟨h, by simp [Coherent, fusedOf]⟩).2
  obtain ⟨trusts, coherent⟩ := h.1.step step
  refine ⟨trusts, ?_⟩
  rw [Coherent, fusedOf_append]
  exact List.forall_mem_append.mpr ⟨h.2, coherent⟩

end Floor

namespace Service

/-! ### What comes down to steps of the floor -/

section OnFloor

variable {α σ : Type} {floor : σ → Floor} {s : σ} {e : Emission σ Effect}

/-- What is done to something with a floor is done on the floor, in steps that send only what is
credible, and no other results come of it. -/
def OnFloor (floor : σ → Floor) (s : σ) (e : Emission σ Effect) : Prop :=
  ∃ out, fusedOf out = fusedOf e.out ∧
    Floor.StepsOf Table.Message.IsCredible (floor s) ⟨floor e.state, out⟩

theorem onFloor_quiet (floor : σ → Floor) (s : σ) : OnFloor floor s (.quiet s) :=
  ⟨[], rfl, .refl (floor s)⟩

theorem OnFloor.outlet (h : OnFloor floor s e) (taken : (floor s).outlet = none) :
    (floor e.state).outlet = none := by
  obtain ⟨out, -, steps⟩ := h
  exact steps.outlet taken

theorem OnFloor.andThen (h : OnFloor floor s e) (taken : (floor s).outlet = none)
    {g : σ → Emission σ Effect}
    (hg : ∀ s', (floor s').outlet = none → OnFloor floor s' (g s')) :
    OnFloor floor s (e.andThen g) := by
  obtain ⟨out', same', steps'⟩ := hg e.state (h.outlet taken)
  obtain ⟨out, same, steps⟩ := h
  refine ⟨out ++ out', ?_, ?_⟩
  · rw [fusedOf_append, same, same', Emission.out_andThen, fusedOf_append]
  · exact Chain.andThen (f := fun _ => ⟨floor (g e.state).state, out'⟩) steps steps'

theorem OnFloor.forEach {g : α → σ → Emission σ Effect} {as : List α}
    (hg : ∀ a ∈ as, ∀ s, (floor s).outlet = none → OnFloor floor s (g a s)) :
    ∀ s, (floor s).outlet = none → OnFloor floor s (Emission.forEach g as s) := by
  induction as with
  | nil => exact fun s _ => onFloor_quiet floor s
  | cons a as ih =>
    obtain ⟨first, rest⟩ := List.forall_mem_cons.mp hg
    exact fun s taken => (first s taken).andThen taken (ih rest)

/-- What is said besides does not matter if it is no result. -/
theorem OnFloor.after (h : OnFloor floor s e) {said : List Effect} (none : fusedOf said = []) :
    OnFloor floor s (e.after said) := by
  obtain ⟨out, same, steps⟩ := h
  exact ⟨out, by rw [same, Emission.out_after, fusedOf_append, none, List.nil_append], steps⟩

end OnFloor

/-! ### Requests -/

section Requests

variable {s : Service}

theorem onFloor_onFloor {f : Floor → Emission Floor Effect}
    (h : Floor.StepsOf Table.Message.IsCredible s.floor (f s.floor)) :
    OnFloor floor s (s.onFloor f) := by
  rw [onFloor, forEach_absorb]
  exact ⟨(f s.floor).out, (fusedOf_aftermath _ _).symm, h⟩

theorem fusedOf_notes {α : Type} (note : α → Note) (as : List α) :
    fusedOf (as.map fun a => .note (note a)) = [] :=
  List.filterMap_eq_nil_iff.mpr fun x hx => by
    obtain ⟨a, -, rfl⟩ := List.mem_map.mp hx
    rfl

/-- The best hand of a record is a certain one. -/
theorem onFloor_takeRecord (r : HandRecord) (taken : s.floor.outlet = none) :
    OnFloor floor s (s.takeRecord r) := by
  rw [takeRecord, takeClassified]
  cases hb : (Classification.ofRecord r).strongest? with
  | some best =>
    have certain := Classification.confidence_of_mem (Classification.strongest?_spec hb).1
    refine (onFloor_onFloor (Floor.stepsOf_receiveHand ?_ s.floor taken)).after (fusedOf_notes _ _)
    exact certain
  | none =>
    refine (onFloor_onFloor (Floor.stepsOf_hear _ _ s.floor taken)).after ?_
    rw [fusedOf_append, fusedOf_notes]
    rfl

/-- A sighting that is not refused is believed to a degree. -/
theorem isCredible_of_valid {r : Sighting} (valid : r.validate.isOk = true) :
    (Table.Message.secondary r).IsCredible := by
  unfold Sighting.validate at valid
  split at valid
  · assumption
  · cases valid

/-- What a request to the floor brings is credible, unless it is a card reading. -/
theorem isCredible_of_message {q : Floor.Request} (fed : ∀ r, q ≠ .hand r) :
    ∀ m ∈ q.message?, m.IsCredible := by
  intro m hm
  cases q with
  | hand r => exact absurd rfl (fed r)
  | sighting r =>
    simp only [Floor.Request.message?, Option.mem_def, Option.ite_none_right_eq_some,
      Option.some.injEq] at hm
    obtain ⟨valid, rfl⟩ := hm
    exact isCredible_of_valid valid
  | hear | tellHealth | advance | check | remove | closeAll => cases hm

theorem onFloor_checkUpTo (time : Nat) (taken : s.floor.outlet = none) :
    OnFloor floor s (s.checkUpTo time) := by
  refine OnFloor.forEach (fun time _ s taken => ?_) s taken
  refine (onFloor_onFloor (Floor.stepsOf_advanceTo time s.floor taken)).andThen taken
    fun s' taken' => ?_
  exact onFloor_onFloor (Floor.stepsOf_check _ s'.floor taken')

theorem onFloor_advance (ms : Nat) (taken : s.floor.outlet = none) :
    OnFloor floor s (s.advance ms) :=
  (onFloor_checkUpTo _ taken).andThen taken fun s' taken' =>
    onFloor_onFloor (Floor.stepsOf_advanceTo _ s'.floor taken')

theorem onFloor_perform {q : Request} (fed : ∀ r, q ≠ .floor (.hand r))
    (taken : s.floor.outlet = none) : OnFloor floor s (s.perform q) := by
  cases q with
  | record r => exact onFloor_takeRecord r taken
  | sighting r =>
    cases valid : r.validate with
    | ok =>
      simp only [perform, attempt, takeSighting, valid]
      have credible := isCredible_of_valid (r := r) (by rw [valid]; rfl)
      exact onFloor_onFloor (Floor.stepsOf_receiveSighting credible s.floor taken)
    | error =>
      simp only [perform, attempt, takeSighting, valid]
      exact onFloor_quiet floor s
  | advance ms => exact onFloor_advance ms taken
  | check => exact onFloor_onFloor (Floor.stepsOf_check _ s.floor taken)
  | floor q =>
    have credible := isCredible_of_message fun r is => fed r (congrArg _ is)
    exact onFloor_onFloor (Floor.stepsOf_act credible s.floor taken)

theorem onFloor_stop (taken : s.floor.outlet = none) : OnFloor floor s s.stop := by
  refine (onFloor_onFloor (Floor.stepsOf_closeAll s.floor taken)).andThen taken fun s' _ => ?_
  show OnFloor floor s' ((Emission.quiet s').after
    [.note .gradingDone, .note (.stopped s'.floor.closedTally)])
  exact (onFloor_quiet floor s').after rfl

end Requests

/-! ### Checks that take their time -/

namespace Checking

/-- What happens to a service with a check of health under way. -/
inductive Deed where
  /-- Something is asked of it. -/
  | request (q : Request)
  /-- A check begins. -/
  | begin
  /-- The check takes its next step. -/
  | goOn
  /-- Time passes, and nobody is in haste. -/
  | advance (ms : Nat)
  /-- Time passes for somebody in haste. -/
  | hasten (count ms : Nat)

/-- Something happens. -/
def take : Deed → Checking → Emission Checking Effect
  | .request q => onService (Service.perform q)
  | .begin => begin
  | .goOn => goOn
  | .advance ms => advance ms
  | .hasten count ms => hasten count ms

/-- Some things happen, one after another, and then the service is stopped. -/
def play (deeds : List Deed) (c : Checking) : Emission Checking Effect :=
  (Emission.forEach take deeds c).andThen (onService Service.stop)

/-- The floor of the service. -/
def floor (c : Checking) : Floor :=
  c.service.floor

variable {c : Checking}

theorem onFloor_onService {g : Service → Emission Service Effect}
    (h : OnFloor Service.floor c.service (g c.service)) : OnFloor floor c (onService g c) :=
  h

theorem onFloor_goOn (taken : c.floor.outlet = none) : OnFloor floor c c.goOn := by
  have steps : Floor.StepsOf Table.Message.IsCredible c.floor (c.round.step c.floor) := by
    cases c.round with
    | sweeping time => exact Floor.stepsOf_sweep time c.floor taken
    | listing time => exact .refl c.floor
    | removing tableIds =>
      cases tableIds with
      | nil => exact .refl c.floor
      | cons tableId _ => exact Floor.stepsOf_remove tableId c.floor taken
  exact onFloor_onFloor steps

theorem onFloor_goFurther (n : Nat) (taken : c.floor.outlet = none) :
    OnFloor floor c (c.goFurther n) := by
  induction n generalizing c with
  | zero => exact onFloor_quiet floor c
  | succ n ih => exact (onFloor_goOn taken).andThen taken fun _ taken' => ih taken'

theorem onFloor_begin (taken : c.floor.outlet = none) : OnFloor floor c c.begin :=
  onFloor_goFurther (c := ⟨c.service, .sweeping c.service.floor.now⟩) 2 taken

theorem onFloor_finish (taken : c.floor.outlet = none) : OnFloor floor c c.finish :=
  (onFloor_goFurther 2 taken).andThen taken fun c' taken' => onFloor_goFurther c'.round.left taken'

theorem onFloor_advance (ms : Nat) (taken : c.floor.outlet = none) :
    OnFloor floor c (c.advance ms) :=
  (onFloor_finish taken).andThen taken fun _ taken' =>
    onFloor_onService (Service.onFloor_advance ms taken')

theorem onFloor_beginAt (time : Nat) (taken : c.floor.outlet = none) :
    OnFloor floor c (c.beginAt time) := by
  unfold beginAt
  split
  · refine OnFloor.andThen (onFloor_onService ?_) taken fun _ taken' => onFloor_begin taken'
    exact onFloor_onFloor (Floor.stepsOf_advanceTo time _ taken)
  · exact onFloor_quiet floor c

theorem onFloor_hasten (count ms : Nat) (taken : c.floor.outlet = none) :
    OnFloor floor c (c.hasten count ms) := by
  set time := c.service.floor.now + ms with time_eq
  have begun : OnFloor floor c (if ms = 0 then .quiet c
      else (c.finish.andThen (onService (checkUpTo (time - 1)))).andThen (beginAt time)) := by
    split
    · exact onFloor_quiet floor c
    · refine ((onFloor_finish taken).andThen taken fun _ taken' => ?_).andThen taken
        fun _ taken' => onFloor_beginAt time taken'
      exact onFloor_onService (onFloor_checkUpTo (time - 1) taken')
  refine (begun.andThen taken fun _ taken' => onFloor_goFurther _ taken').andThen taken
    fun _ taken' => onFloor_onService ?_
  exact onFloor_onFloor (Floor.stepsOf_hastenTo count time _ taken')

theorem onFloor_take {d : Deed} (fed : ∀ r, d ≠ .request (.floor (.hand r)))
    (taken : c.floor.outlet = none) : OnFloor floor c (take d c) := by
  cases d with
  | request q =>
    exact onFloor_onService (onFloor_perform (fun r is => fed r (congrArg _ is)) taken)
  | begin => exact onFloor_begin taken
  | goOn => exact onFloor_goOn taken
  | advance ms => exact onFloor_advance ms taken
  | hasten count ms => exact onFloor_hasten count ms taken

theorem onFloor_play {deeds : List Deed} (fed : ∀ r, .request (.floor (.hand r)) ∉ deeds)
    (taken : c.floor.outlet = none) : OnFloor floor c (play deeds c) := by
  refine OnFloor.andThen (OnFloor.forEach (fun d hd c taken => ?_) c taken) taken fun _ taken' =>
    onFloor_onService (onFloor_stop taken')
  exact onFloor_take (fun r is => fed r (is ▸ hd)) taken

end Checking

/-- **Every result of a service that is fed with records and sightings is coherent**, whatever else
is asked of it meanwhile and in whatever order, until and when it is stopped. -/
theorem coherent_of_run {settings : Settings} {calendar : Nat → UtcTime}
    {started : Emission Service Effect} (h : start settings calendar = .ok started)
    {deeds : List Checking.Deed} (fed : ∀ r, .request (.floor (.hand r)) ∉ deeds) :
    ∀ r ∈ fusedOf (Checking.play deeds (.idle started.state)).out,
      r.Coherent settings.policy.secondaryThreshold := by
  obtain rfl := eq_of_start h
  obtain ⟨out, same, steps⟩ :=
    Checking.onFloor_play (c := .idle ⟨settings, .opened settings calendar, .empty⟩) fed rfl
  rw [← same]
  exact (Floor.trusts_opened settings calendar).coherent_of_steps steps

/-- A seat with a pair of aces. -/
def aces : Seat := ⟨1, "A", ["Ah", "As"], 0, 0⟩

/-- A hand that is read as a pair of aces and of which the video names no category gives a result
when both are there, and a hand that the video alone shows gives one when the service is stopped;
both are coherent. -/
theorem coherent_of_two : ∃ started,
    start (.usual 1000 2000) (fun _ => .epoch) = .ok started ∧
      let record : HandRecord :=
        ⟨"T1", 7, none, none, [aces], [.boardCards ["2c", "9d", "Jh"]]⟩
      let e := Checking.play
        [.request (.record record), .request (.sighting glimpse), .hasten 1 500,
          .request (.sighting { glimpse with handNumber := 8 })] (.idle started.state)
      (fusedOf e.out).length = 2 ∧ ∀ r ∈ fusedOf e.out,
        r.Coherent (Settings.usual 1000 2000).policy.secondaryThreshold := by
  exact ⟨_, start_usual, by decide +kernel, coherent_of_run start_usual (by simp)⟩

end Service

end Showdown
