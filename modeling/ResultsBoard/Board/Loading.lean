import ResultsBoard.Board.Basic

/-!
# Loads and their results

A load starts fetches; each of them ends later, in any order, and delivers its result. The result
of a fetch counts only if what it is for is still mounted and, for the metadata browser, if no
later load has begun. A failure that counts is reported.
-/

namespace ResultsBoard.Board

open Fetch Metadata

/-- Start both fetches of a load of the metadata browser. -/
def spawnMetadata (b : Board) (generation : UInt64) : Board :=
  (b.spawn (.options generation)).spawn (.model generation)

/-- Mount the metadata browser with a tab, which starts its first load (`MetadataBrowser`). -/
def mountBrowser (b : Board) (tab : Tab) : Board :=
  let browser := ({ tab } : Browser).beginLoading
  let b := { b with browser := some browser, loads := b.loads ++ [Load.metadata] }
  b.spawnMetadata browser.generation

/-- Load something again. Says whether it is mounted. -/
def retry (b : Board) : Load → Board × Bool
  | .metadata =>
    match b.browser with
    | none => (b, false)
    | some browser =>
      let browser := browser.beginLoading
      ({ b with browser := some browser }.spawnMetadata browser.generation, true)
  | .plot token =>
    match b.widget? token with
    | none => (b, false)
    | some w =>
      ((b.modify token fun w => w.setDataset b.container .loading).spawn
        (.dataset token w.plot), true)

/-- Select a tab. Says whether the metadata browser is mounted. -/
def selectTab (b : Board) (tab : Tab) : Board × Bool :=
  match b.browser with
  | none => (b, false)
  | some browser => ({ b with browser := some (browser.select tab) }, true)

/-- Deliver a dataset to the widget with a token. Nobody wants it if the widget has been
unmounted. -/
def deliverDataset (b : Board) (token : Nat) (plot : PlotId)
    (result : Except Failure Series.Dataset) : Board :=
  match b.widget? token with
  | none =>
    b.log (.debug ("plot " ++ plot.text ++ " unmounted before its dataset arrived; discarded"))
  | some _ =>
    let b := b.modify token fun w => w.setDataset b.container (.ofResult result)
    match result with
    | .ok _ => b
    | .error failure =>
      b.report ("plot " ++ plot.text ++ ": dataset fetch failed: " ++ failure.message)
        ("Plot " ++ plot.text ++ ": " ++ failure.message)

/-- Report the failure of a metadata document (`report`). -/
def reportDocument (b : Board) (name : String) (failure : Failure) : Board :=
  b.report (name ++ " document fetch failed: " ++ failure.message)
    ("Metadata (" ++ name ++ "): " ++ failure.message)

/-- Deliver a document to the metadata browser with one of its `apply` operations. Nobody wants it
if the browser has been unmounted. -/
def deliverDocument {α : Type} (b : Board) (name : String) (result : Except Failure α)
    (apply : Browser → Except Failure α → Browser × Bool) : Board :=
  match b.browser with
  | none => b
  | some browser =>
    let (browser, counted) := apply browser result
    let b := { b with browser := some browser }
    match counted, result with
    | true, .error failure => b.reportDocument name failure
    | _, _ => b

/-- Carry out a fetch of a resource with the next answers of the server, and deliver its
result. -/
def carryOut {α : Type} (b : Board) (resource : Resource) (fetch : (Nat → Answer) → Run α)
    (deliver : Board → Except Failure α → Board) : Board :=
  let run := fetch (b.server.ahead resource)
  let b := { b with server := b.server.spend resource run.used }
  deliver (b.emit (run.events.map .ofEvent)) run.result

/-- Run a fetch to its end. -/
def complete (b : Board) : Task → Board
  | .dataset token plot =>
    b.carryOut .data (Series.fetchDataset b.settings) fun b result =>
      b.deliverDataset token plot result
  | .options generation =>
    b.carryOut .options (fetchOptions b.settings) fun b result =>
      b.deliverDocument "options" result fun browser => browser.applyOptions generation
  | .model generation =>
    b.carryOut .model (fetchModel b.settings) fun b result =>
      b.deliverDocument "model" result fun browser => browser.applyModel generation

/-- Run the fetch at an index of those under way to its end. Says whether there is one. -/
def settle (b : Board) (index : Nat) : Board × Bool :=
  match b.waiting[index]? with
  | none => (b, false)
  | some task => ({ b with waiting := b.waiting.eraseIdx index }.complete task, true)

/-- Run all fetches under way to their end, in the order of their start. -/
def settleAll (b : Board) : Board := b.waiting.foldl complete { b with waiting := [] }

end ResultsBoard.Board
