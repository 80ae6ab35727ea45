import Showdown.Emission
import Showdown.Table.Message

/-!
# The outlet of results

Results may be handed on through an outlet, where they stay until somebody collects them. It has
room for a limited number of them. A table that has a result for which there is no room waits:
that result and all that the table puts out after it are held back, in order, until the outlet has
been emptied.

Tables that put something out at the same time take turns, so that none keeps the others away from
the outlet for long. In one turn a table does a limited number of things, where taking up a message
counts as one and handing on a result as another.

What a table makes of a message does not depend on what becomes of its results. So its state is
that of a table that never waits, and only its outputs come late. In particular a timer begins to
run when its start is let through, not when the hand was opened.

If the outlet is closed, then nobody takes results any more, and no table has to wait.
-/

namespace Showdown

/-- What an output becomes if nobody takes results. -/
def Table.Output.unheard : Table.Output → Table.Output
  | .effect e => .effect e.unheard
  | x => x

/-- A part of the work of a table. -/
inductive Chore where
  /-- A message is taken up. -/
  | takeUp
  /-- Something is put out. -/
  | putOut (x : Table.Output)

/-- A table with the work that it still has to do, in order. -/
structure Worker where
  /-- The table. -/
  tableId : TableId
  /-- The work. -/
  chores : List Chore

/-- An outlet. -/
structure Outlet where
  /-- The number of results there is room for when it is empty. -/
  capacity : Nat
  /-- The number of results there is still room for. -/
  free : Nat
  /-- Nobody takes results any more. -/
  closed : Bool
  /-- The tables that can go on, in the order of their turns. -/
  ready : List Worker
  /-- The tables that wait for room, in the order in which they began to. -/
  waiting : List Worker

namespace Outlet

/-- An empty outlet with room for a number of results. -/
def opened (capacity : Nat) : Outlet :=
  ⟨capacity, capacity, false, [], []⟩

/-! ### Work -/

/-- The chores that a message gives rise to. -/
def choresOf (out : List Table.Output) : List Chore :=
  .takeUp :: out.map .putOut

/-- Gives more chores to one of some tables. -/
def assign (tableId : TableId) (chores : List Chore) (ws : List Worker) : List Worker :=
  ws.map fun w => if w.tableId == tableId then ⟨w.tableId, w.chores ++ chores⟩ else w

/-- A table has taken up a message, and this is what it will put out. -/
def offer (tableId : TableId) (out : List Table.Output) (o : Outlet) : Outlet :=
  let chores := choresOf out
  if o.waiting.any fun w => w.tableId == tableId then
    { o with waiting := assign tableId chores o.waiting }
  else if o.ready.any fun w => w.tableId == tableId then
    { o with ready := assign tableId chores o.ready }
  else { o with ready := o.ready ++ [⟨tableId, chores⟩] }

/-! ### Turns -/

/-- How a turn ends. -/
inductive Ending where
  /-- The work is done. -/
  | done
  /-- The turn is over, and there is work left. -/
  | over (chores : List Chore)
  /-- There is no room for the next result. -/
  | stuck (chores : List Chore)

/-- A turn in which a number of things can be done. The state is the room that is left, unless
nobody takes results any more. -/
def turn : Nat → Option Nat → List Chore → Emission (Option Nat) Table.Output × Ending
  | _, free, [] => (.quiet free, .done)
  | 0, free, .takeUp :: cs => (.quiet free, .over (.takeUp :: cs))
  | n + 1, free, .takeUp :: cs => turn n free cs
  | n, free, .putOut x :: cs =>
    match x.fused?, n, free with
    | none, n, free => let r := turn n free cs; (r.1.after [x], r.2)
    | some _, 0, free => (.quiet free, .over (.putOut x :: cs))
    | some _, _ + 1, some 0 => (.quiet free, .stuck (.putOut x :: cs))
    | some _, n + 1, some (left + 1) => let r := turn n (some left) cs; (r.1.after [x], r.2)
    | some _, n + 1, none => let r := turn n none cs; (r.1.after [x.unheard], r.2)

/-- The number of things that a table does in one turn. -/
def turnLength : Nat := 128

/-- The next turn. -/
def next (o : Outlet) : Emission Outlet Table.Output :=
  match o.ready with
  | [] => .quiet o
  | w :: ws =>
    let (r, ending) := turn turnLength (if o.closed then none else some o.free) w.chores
    let o := { o with free := r.state.getD o.free, ready := ws }
    match ending with
    | .done => ⟨o, r.out⟩
    | .over chores => ⟨{ o with ready := ws ++ [⟨w.tableId, chores⟩] }, r.out⟩
    | .stuck chores => ⟨{ o with waiting := o.waiting ++ [⟨w.tableId, chores⟩] }, r.out⟩

/-- A number of turns. -/
def turns : Nat → Outlet → Emission Outlet Table.Output
  | 0, o => .quiet o
  | n + 1, o => if o.ready.isEmpty then .quiet o else o.next.andThen (turns n)

/-- Turns are taken until no table can go on. Each but the last one of a table does something, so
there are not more of them than chores and tables. -/
def run (o : Outlet) : Emission Outlet Table.Output :=
  o.turns (o.ready.foldl (fun n w => n + (w.chores.length + 1)) 0)

/-! ### Whoever takes the results -/

/-- All results are collected, and the tables that waited can go on. -/
def emptied (o : Outlet) : Outlet :=
  { o with free := o.capacity, ready := o.waiting ++ o.ready, waiting := [] }

/-- The outlet is closed, and the tables that waited can go on. -/
def close (o : Outlet) : Outlet :=
  { o with closed := true, ready := o.waiting ++ o.ready, waiting := [] }

/-! ### Without an outlet -/

/-- What is let through at once of the outputs of a table: everything without an outlet, and
otherwise nothing before its turn. -/
def offer? (tableId : TableId) (out : List Table.Output) :
    Option Outlet → Emission (Option Outlet) Table.Output
  | none => ⟨none, out⟩
  | some o => .quiet (some (o.offer tableId out))

/-- What is let through when the tables take their turns. -/
def run? : Option Outlet → Emission (Option Outlet) Table.Output
  | none => .quiet none
  | some o => let r := o.run; ⟨some r.state, r.out⟩

end Outlet

end Showdown
