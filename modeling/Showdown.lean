import Showdown.Json.Event
import Showdown.Json.Reader
import Showdown.Log.Fields
import Showdown.Proofs.Floor.Forgetting
import Showdown.Proofs.Hand.Order
import Showdown.Proofs.Service.Conservation
import Showdown.Proofs.Table.Invariant
import Showdown.Service.Request
import Showdown.Table.Timed
import Showdown.Proofs.Agenda
import Showdown.Proofs.Table.Scope
import Showdown.Proofs.Floor.Clock
import Showdown.Proofs.Monitor
import Showdown.Proofs.Floor.Alike
import Showdown.Proofs.Floor.Isolation
import Showdown.Proofs.Floor.Informed
import Showdown.Proofs.Table.Turns
import Showdown.Proofs.Table.Fate
import Showdown.Proofs.Table.Journal
import Showdown.Proofs.Table.Refinement
import Showdown.Proofs.Table.Clock
import Showdown.Proofs.Table.Window
import Showdown.Proofs.Hand.Band
import Showdown.Proofs.Hand.Best
import Showdown.Proofs.Table.Closing
import Showdown.Proofs.Floor.Removal
import Showdown.Proofs.Floor.Totals
import Showdown.Proofs.Floor.Docket
import Showdown.Proofs.Floor.Overdue
import Showdown.Proofs.Floor.Annals
import Showdown.Proofs.Switchboard.Agreement
import Showdown.Proofs.Table.Inbox
import Showdown.Proofs.Floor.Rounds
import Showdown.Service.Haste
import Showdown.Proofs.Classification
import Showdown.Proofs.Health.Recall
import Showdown.Proofs.Service.Coherence
import Showdown.Proofs.Table.Alone
import Showdown.Proofs.Table.Streak
import Showdown.Proofs.Table.Late
import Showdown.Proofs.Hand.Holding
import Showdown.Proofs.Board
import Showdown.Proofs.Card
import Showdown.Proofs.Ranking
import Showdown.Proofs.Grading
import Showdown.Proofs.Settings.Layers
import Showdown.Proofs.Hand.Choice
import Showdown.Proofs.Health.Reports
import Showdown.Proofs.Json.Event
