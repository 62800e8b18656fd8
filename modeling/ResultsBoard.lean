import ResultsBoard.Board.Action
import ResultsBoard.Board.Basic
import ResultsBoard.Board.Loading
import ResultsBoard.Board.Membership
import ResultsBoard.Board.Part
import ResultsBoard.Board.Script
import ResultsBoard.Board.Start
import ResultsBoard.Board.Visit
import ResultsBoard.Board.Widget
import ResultsBoard.Chart.Area
import ResultsBoard.Chart.Bounds
import ResultsBoard.Chart.Canvas
import ResultsBoard.Chart.Draw
import ResultsBoard.Chart.Palette
import ResultsBoard.Chart.Tick
import ResultsBoard.Decimal.Fixed
import ResultsBoard.Decimal.Parts
import ResultsBoard.Decimal.Shortest
import ResultsBoard.Fetch.Failure
import ResultsBoard.Fetch.Request
import ResultsBoard.Fetch.State
import ResultsBoard.Json.Cursor
import ResultsBoard.Json.Fault
import ResultsBoard.Json.Literal
import ResultsBoard.Json.Numeral
import ResultsBoard.Json.Printer
import ResultsBoard.Json.Reader
import ResultsBoard.Json.Skip
import ResultsBoard.Json.Value
import ResultsBoard.Log
import ResultsBoard.Metadata.Browser
import ResultsBoard.Metadata.Document
import ResultsBoard.Plots
import ResultsBoard.Reply
import ResultsBoard.Resize.Hubs
import ResultsBoard.Resize.Registry
import ResultsBoard.Resize.Script
import ResultsBoard.Series.Dataset
import ResultsBoard.Series.Trace
import ResultsBoard.Settings.Basic
import ResultsBoard.Settings.Page
import ResultsBoard.Settings.Reader
import ResultsBoard.Text.Blank
import ResultsBoard.Text.Quoted
import ResultsBoard.Text.Visible
import ResultsBoard.Toast
import ResultsBoard.View.Browser
import ResultsBoard.View.Node
import ResultsBoard.View.Notice
import ResultsBoard.View.Page
import ResultsBoard.View.Plot
import ResultsBoard.View.Skeleton
import ResultsBoard.View.Table
import ResultsBoard.Proofs.Metadata.History
import ResultsBoard.Proofs.Metadata.Loads
import ResultsBoard.Proofs.Resize.Course
import ResultsBoard.Proofs.Resize.Pass
import ResultsBoard.Proofs.Resize.Round
import ResultsBoard.Proofs.Resize.Scripts
import ResultsBoard.Proofs.Resize.Ownership
import ResultsBoard.Proofs.Resize.Keeping
import ResultsBoard.Proofs.Resize.Strays
import ResultsBoard.Proofs.Board.Still
import ResultsBoard.Proofs.Plots.Order
import ResultsBoard.Proofs.Board.Column
import ResultsBoard.Proofs.Plots.Text
import ResultsBoard.Proofs.Plots.History
import ResultsBoard.Proofs.Fetch.Retries
import ResultsBoard.Proofs.Toast.Countdown
import ResultsBoard.Proofs.Board.Change
import ResultsBoard.Proofs.Board.Sound
import ResultsBoard.Proofs.Board.Inert
import ResultsBoard.Proofs.Metadata.Merge
import ResultsBoard.Proofs.Board.Happening
import ResultsBoard.Proofs.Board.Reports
import ResultsBoard.Proofs.Settings.Start
import ResultsBoard.Proofs.Chart.Zeros
import ResultsBoard.Proofs.Chart.Likeness
import ResultsBoard.Proofs.Board.Fitting
import ResultsBoard.Proofs.Board.Screen
import ResultsBoard.Proofs.Json.Names
import ResultsBoard.Proofs.Series.Payload
import ResultsBoard.Proofs.Chart.Path
import ResultsBoard.Proofs.Chart.Painting
import ResultsBoard.Proofs.Resize.Ledger
import ResultsBoard.Proofs.Board.Flights
import ResultsBoard.Proofs.Board.Logbooks
import ResultsBoard.Proofs.View.Buttons
import ResultsBoard.Proofs.Board.Alarms
import ResultsBoard.Proofs.Board.SingleFlight
import ResultsBoard.Proofs.Metadata.Partition
import ResultsBoard.Proofs.Metadata.Tabs
import ResultsBoard.Proofs.Plots.Removal
import ResultsBoard.Proofs.Settings.BackOff
import ResultsBoard.Proofs.Chart.Extent
import ResultsBoard.Proofs.Chart.NoData
