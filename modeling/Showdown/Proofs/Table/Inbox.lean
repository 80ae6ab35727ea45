import Showdown.Proofs.Table.Accounts
import Showdown.Proofs.Table.Fate

/-!
# What becomes of the messages in an inbox

Anybody who can send to a table puts messages into its inbox, in any order, and the table handles
them one after another until one of them shuts it down. The messages in front of this one are the
ones that count: a hand has a result in the end if and only if one of them observes it
(`recorded_of_run`). An observation that was put into the inbox behind it is lost, as
`lost_of_run` shows, though it was taken in like the others.
-/

namespace Showdown.Table

variable {hand : HandNumber} {u : Turn} {t : Table} {m : Message} {out : List Output}
variable {seen : List Message}

/-- The messages that a table gets to handle: those in front of the first one that shuts it down. -/
def handled : List Message → List Message
  | [] => []
  | .shutdown :: _ => []
  | m :: ms => m :: handled ms

/-! ### Turns -/

/-- A hand that does not wait is left alone by all turns but its observations. -/
theorem not_accounts_take (unobserved : u.source? hand = none) (closed : t.pending[hand]? = none) :
    ¬ Accounts (take u t).state (take u t).out hand := by
  rw [Accounts, mem_resolved_iff]
  cases fate_take hand u t with
  | spared _ _ _ stands => simp [stands.pending, closed, stands.unresolved]
  | late observed _ _ _ | opened observed _ _ _ _ _ _ _ _ | cut observed _ _ _ _
  | replaced observed _ _ _ _ _ =>
    rw [unobserved] at observed
    cases observed
  | resolved waited _ _ | givenUp waited _ _ => cases closed.symm.trans waited

/-- After the last turn no hand waits. -/
theorem not_pending_of_ends (ends : u.ends = true) (hand : HandNumber) :
    (take u t).state.pending[hand]? = none := by
  cases fate_take hand u t with
  | spared _ _ goesOn stands =>
    rw [stands.pending]
    by_contra waits
    rw [goesOn (Option.isSome_iff_ne_none.mpr waits)] at ends
    cases ends
  | late observed _ _ _ | opened observed _ _ _ _ _ _ _ _ | cut observed _ _ _ _
  | replaced observed _ _ _ _ _ =>
    rw [Turn.source?_of_ends ends] at observed
    cases observed
  | resolved _ _ goes | givenUp _ _ goes => exact goes.gone

/-! ### Messages -/

/-- A table has handled some messages: the hands that they observe are those that wait or have
results. -/
structure Recorded (seen : List Message) (t : Table) (out : List Output) : Prop where
  /-- The table remembers what it should. -/
  remembers : Remembers t (resolved out)
  /-- A hand that was observed waits or has a result, and no other one. -/
  accounts_iff : ∀ hand, Accounts t out hand ↔ ∃ m ∈ seen, m.observed? = some hand

theorem recorded_opened (tableId : TableId) (settings : Settings) :
    Recorded [] (opened tableId settings) [] :=
  ⟨remembers_opened tableId settings, by simp [Accounts, opened, resolved]⟩

/-- What becomes of a hand in a turn is all there is to be added. -/
theorem accounts_append_iff : Accounts (take u t).state (out ++ (take u t).out) hand ↔
    Accounts (take u t).state (take u t).out hand ∨ hand ∈ resolved out := by
  rw [Accounts, Accounts, resolved_append, List.mem_append, or_assoc,
    or_comm (a := _ ∈ resolved out)]

/-- A turn that is no observation of a hand keeps whether it waits or has a result. -/
theorem accounts_take_iff (unobserved : u.source? hand = none) :
    Accounts (take u t).state (out ++ (take u t).out) hand ↔ Accounts t out hand := by
  rw [accounts_append_iff, Accounts.eq_def t]
  refine or_congr_left' fun unresolved => ⟨fun now => ?_, accounts_moves (moves_take u t)⟩
  by_contra closed
  exact not_accounts_take unobserved (by simpa using closed) now

theorem Recorded.handle (r : Recorded seen t out) (m : Message) :
    Recorded (seen ++ [m]) (t.handle m).state (out ++ (t.handle m).out) := by
  refine ⟨by rw [resolved_append]; exact r.remembers.handle m, fun hand => ?_⟩
  have later : (∃ m' ∈ seen ++ [m], m'.observed? = some hand) ↔
      (∃ m' ∈ seen, m'.observed? = some hand) ∨ m.observed? = some hand := by
    simp [or_and_right, exists_or]
  rw [later, ← r.accounts_iff hand]
  by_cases observed : m.observed? = some hand
  · refine iff_of_true (accounts_append_iff (u := .message m).mpr ?_) (.inr observed)
    cases known : t.history.contains hand with
    | false => exact .inl (accounts_observed observed known)
    | true =>
      rw [r.remembers.sound.contains_iff, r.remembers.order_eq] at known
      exact .inr (List.mem_of_mem_drop known)
  · rw [or_iff_left observed]
    exact accounts_take_iff (u := .message m) (source?_message_eq_none_iff.mpr observed)

/-- After the last turn the hands that were observed have results, and no other one has. -/
theorem Recorded.last (r : Recorded seen t out) (ends : u.ends = true) (hand : HandNumber) :
    hand ∈ resolved (out ++ (take u t).out) ↔ ∃ m ∈ seen, m.observed? = some hand := by
  rw [← r.accounts_iff hand, ← accounts_take_iff (u := u) (Turn.source?_of_ends ends hand), Accounts,
    not_pending_of_ends ends]
  simp

/-! ### Runs -/

theorem run_cons (goesOn : m ≠ .shutdown) (ms : List Message) (t : Table) :
    t.run (m :: ms) = (t.handle m).andThen (run ms) := by
  rw [run]
  exact goesOn

theorem handled_cons (goesOn : m ≠ .shutdown) (ms : List Message) :
    handled (m :: ms) = m :: handled ms := by
  rw [handled]
  exact goesOn

theorem Recorded.run (r : Recorded seen t out) (ms : List Message) (hand : HandNumber) :
    hand ∈ resolved (out ++ (t.run ms).out) ↔
      ∃ m ∈ seen ++ handled ms, m.observed? = some hand := by
  induction ms generalizing seen t out with
  | nil =>
    rw [handled, List.append_nil]
    exact r.last (u := .deserted) rfl hand
  | cons m ms ih =>
    by_cases goesOn : m = .shutdown
    · subst goesOn
      rw [handled, List.append_nil]
      exact r.last (u := .message .shutdown) rfl hand
    · rw [run_cons goesOn, handled_cons goesOn, Emission.out_andThen, ← List.append_assoc,
        ih (r.handle m), List.append_assoc]
      rfl

/-- What lies in the inbox behind a message that shuts the table down makes no difference. -/
theorem run_append_shutdown (before after : List Message) (t : Table) :
    t.run (before ++ .shutdown :: after) = t.run (before ++ [.shutdown]) := by
  induction before generalizing t with
  | nil => rfl
  | cons m before ih =>
    by_cases goesOn : m = .shutdown
    · subst goesOn
      rfl
    · rw [List.cons_append, List.cons_append, run_cons goesOn, run_cons goesOn, funext ih]

/-- If no message shuts the table down, then it gets to handle all of them, and otherwise those in
front of one that does. -/
theorem handled_eq_or_exists (ms : List Message) :
    (.shutdown ∉ ms ∧ handled ms = ms) ∨ ∃ after, ms = handled ms ++ .shutdown :: after := by
  induction ms with
  | nil => exact .inl ⟨List.not_mem_nil, rfl⟩
  | cons m ms ih =>
    by_cases goesOn : m = .shutdown
    · subst goesOn
      exact .inr ⟨ms, rfl⟩
    · rw [handled_cons goesOn]
      rcases ih with ⟨never, all⟩ | ⟨after, cut⟩
      · exact .inl ⟨List.not_mem_cons_of_ne_of_not_mem (Ne.symm goesOn) never, by rw [all]⟩
      · exact .inr ⟨after, by rw [List.cons_append, ← cut]⟩

/-- **A hand has a result in the end if and only if a message observes it that the table gets to
handle**, which are the messages in front of the first one that shuts the table down. What lies
behind makes no difference. So no observation is lost if there is none behind. -/
theorem recorded_of_run (tableId : TableId) (settings : Settings) (ms : List Message) :
    (∀ hand, hand ∈ resolved ((opened tableId settings).run ms).out ↔
      ∃ m ∈ handled ms, m.observed? = some hand) ∧
    (.shutdown ∉ ms → handled ms = ms) ∧
    (.shutdown ∈ ms → ∃ after, ms = handled ms ++ .shutdown :: after ∧
      (opened tableId settings).run ms =
        (opened tableId settings).run (handled ms ++ [.shutdown]) ∧
      ((∀ m ∈ after, m.observed? = none) → ∀ m ∈ ms, ∀ hand, m.observed? = some hand →
        hand ∈ resolved ((opened tableId settings).run ms).out)) := by
  have recorded := (recorded_opened tableId settings).run ms
  simp only [List.nil_append] at recorded
  refine ⟨recorded, fun never => ?_, fun ends => ?_⟩
  · rcases handled_eq_or_exists ms with ⟨-, all⟩ | ⟨after, cut⟩
    · exact all
    · rw [cut] at never
      simp at never
  · rcases handled_eq_or_exists ms with ⟨never, -⟩ | ⟨after, cut⟩
    · exact absurd ends never
    · refine ⟨after, cut, ?_, fun unobserved m hm hand observed => ?_⟩
      · have same := run_append_shutdown (handled ms) after (opened tableId settings)
        rwa [← cut] at same
      · rw [recorded]
        rw [cut] at hm
        rcases List.mem_append.mp hm with hm | hm
        · exact ⟨m, hm, observed⟩
        · rcases List.mem_cons.mp hm with rfl | hm
          · cases observed
          · cases (unobserved m hm).symm.trans observed

/-- **An observation may be lost**: one that was put into the inbox behind the message that shuts the
table down. -/
theorem lost_of_run :
    ¬ ∀ (tableId : TableId) (settings : Settings) (ms : List Message), .shutdown ∈ ms →
      ∀ m ∈ ms, ∀ hand, m.observed? = some hand →
        hand ∈ resolved ((opened tableId settings).run ms).out := by
  intro claimed
  have recorded := claimed "T1" ⟨.standard, 1000, 3⟩ [.shutdown, .secondary unnamed] (by simp)
    (.secondary unnamed) (by simp) 7 rfl
  have empty : resolved ((opened "T1" ⟨.standard, 1000, 3⟩).run
      [.shutdown, .secondary unnamed]).out = [] := by decide +kernel
  rw [empty] at recorded
  cases recorded

end Showdown.Table
