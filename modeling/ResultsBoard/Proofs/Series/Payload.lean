import Mathlib
import ResultsBoard.Proofs.Json.Names
import ResultsBoard.Series.Dataset

/-!
# From a data document to the traces of a chart

A data document (`TimeSeriesDataset::from_json`) is an object with a time axis. Every other member
becomes a trace over that axis (`build_series`), in the order of the document, wherever the axis
stands in it. An item that is no number keeps its place, so that no sample is paired with the time
of another one.

* `Sampled`: the samples in a value, item by item. `sampled_samples`: so they are taken.
* `TracesLaw`: the traces that come of the members of a document.
* `PayloadLaw`, `payload_law`: which values are data documents, what the others are refused for, and
  the traces of those that are.
-/

namespace ResultsBoard.Series

open Json Fetch

/-! ## Samples -/

/-- The sample of an item: the nearest number to an integer, a real number itself, and otherwise
what is not a number. -/
def SampleOf : Value → Float → Prop
  | .number (.natural n), x => x = n.toFloat
  | .number (.negative n), x => x = -n.toFloat
  | .number (.real r), x => x = r
  | _, x => x.isNaN = true

/-- **The samples in a value**: an array has one for each item, at the same index, and nothing else
has any. -/
def Sampled : Value → List Float → Prop
  | .array items, xs => xs.length = items.length ∧
      ∀ (i : Nat) item x, items[i]? = some item → xs[i]? = some x → SampleOf item x
  | _, xs => xs = []

theorem isNaN_noNumber : noNumber.isNaN = true := by decide

theorem sampleOf_item (item : Value) : SampleOf item (item.toFloat?.getD noNumber) := by
  cases item with
  | number n => cases n <;> rfl
  | _ => exact isNaN_noNumber

theorem sampled_samples (value : Value) : Sampled value (samples value) := by
  cases value with
  | array items =>
    refine ⟨List.length_map _, fun i item x hitem hx => ?_⟩
    unfold samples at hx
    rw [List.getElem?_map, hitem] at hx
    obtain rfl := Option.some.inj hx
    exact sampleOf_item item
  | _ => rfl

/-! ## Traces -/

namespace Trace

/-- At an index is the pair of the two coordinates there, if both lists have one. -/
theorem getElem?_points (t : Trace) (i : Nat) (x y : Float) :
    t.points[i]? = some (x, y) ↔ t.xs[i]? = some x ∧ t.ys[i]? = some y := by
  unfold points
  rw [List.getElem?_zip_eq_some]

end Trace

/-- **One trace of a data document**: the samples of the member that it is named after, over those
of the time axis. -/
structure TraceLaw (members : Members) (t : Trace) : Prop where
  mode : t.mode = .linesMarkers
  xs : ∃ time, Members.get? members timeKey = some time ∧ Sampled time t.xs
  ys : ∃ value, Members.get? members t.name = some value ∧ Sampled value t.ys
  /-- There are as many points as the shorter list has samples, -/
  size : t.points.length = t.size ∧ t.size = min t.xs.length t.ys.length
  /-- paired by their index. -/
  points : ∀ (i : Nat) x y, t.points[i]? = some (x, y) ↔ t.xs[i]? = some x ∧ t.ys[i]? = some y

/-- **The traces of a data document**: one for each name but that of the time axis, in the order of
the document. -/
structure TracesLaw (members : Members) (traces : List Trace) : Prop where
  names : traces.map Trace.name = (Members.names members).filter fun name => name ≠ timeKey
  distinct : (traces.map Trace.name).Nodup
  untimed : timeKey ∉ traces.map Trace.name
  each : ∀ t ∈ traces, TraceLaw members t

variable {members : Members} {time : Value} {d : Dataset}

theorem ofJson_of_time (h : Members.get? members timeKey = some time) :
    Dataset.ofJson (.object members) = .ok ⟨samples time,
      (members.filter fun member => member.1 ≠ timeKey).map fun member =>
        (member.1, samples member.2)⟩ := by
  unfold Dataset.ofJson
  dsimp only
  rw [h]

theorem ofJson_of_no_time (h : Members.get? members timeKey = none) :
    Dataset.ofJson (.object members) = .error (.missingKey timeKey) := by
  unfold Dataset.ofJson
  dsimp only
  rw [h]

/-- The traces are named after the members that are no time axis. -/
theorem names_traces (members : Members) (samplesOf : Value → List Float) (xs : List Float) :
    (Dataset.traces ⟨xs, (members.filter fun member => member.1 ≠ timeKey).map fun member =>
      (member.1, samplesOf member.2)⟩).map Trace.name =
        (Members.names members).filter fun name => name ≠ timeKey := by
  unfold Dataset.traces Members.names
  rw [List.map_map, List.map_map, List.filter_map]
  rfl

theorem tracesLaw_ofJson (hnames : (Members.names members).Nodup)
    (h : Dataset.ofJson (.object members) = .ok d) : TracesLaw members d.traces := by
  cases htime : Members.get? members timeKey with
  | none =>
    rw [ofJson_of_no_time htime] at h
    cases h
  | some time =>
    rw [ofJson_of_time htime] at h
    cases h
    have hfiltered := names_traces members samples (samples time)
    refine ⟨hfiltered, ?_, ?_, fun t ht => ?_⟩
    · rw [hfiltered]
      exact hnames.filter _
    · rw [hfiltered]
      simp
    · obtain ⟨series, hseries, rfl⟩ := List.mem_map.mp ht
      obtain ⟨⟨name, value⟩, hmember, rfl⟩ := List.mem_map.mp hseries
      have hmem := List.mem_of_mem_filter hmember
      exact ⟨rfl, ⟨time, htime, sampled_samples time⟩,
        ⟨value, (Members.get?_eq_some_iff hnames).mpr hmem, sampled_samples value⟩,
        ⟨Trace.length_points _, rfl⟩, Trace.getElem?_points _⟩

/-! ## The law -/

/-- What is said of a value that is no object. -/
def notAnObject : String := "dataset must be a JSON object"

theorem ofJson_of_not_object {v : Value} (h : ∀ members, v ≠ .object members) :
    Dataset.ofJson v = .error (.parse notAnObject) := by
  cases v with
  | object members => exact absurd rfl (h members)
  | _ => rfl

/-- **How a value is taken as a data document.** -/
structure PayloadLaw (v : Value) : Prop where
  /-- What is no object is refused. -/
  parse : ∀ text, Dataset.ofJson v = .error (.parse text) ↔
    text = notAnObject ∧ ∀ members, v ≠ .object members
  /-- So is an object without a time axis. -/
  missing : Dataset.ofJson v = .error (.missingKey timeKey) ↔
    ∃ members, v = .object members ∧ timeKey ∉ Members.names members
  /-- Anything else is a data document. -/
  ok : (∃ d, Dataset.ofJson v = .ok d) ↔
    ∃ members, v = .object members ∧ timeKey ∈ Members.names members
  traces : ∀ members d, v = .object members → Dataset.ofJson v = .ok d →
    TracesLaw members d.traces

theorem payloadLaw_of_not_object {v : Value} (h : ∀ members, v ≠ .object members) :
    PayloadLaw v := by
  have hrefused := ofJson_of_not_object h
  refine ⟨fun text => ?_, ?_, ?_, fun members _ hobject => absurd hobject (h members)⟩
  · rw [hrefused]
    constructor
    · rintro ⟨⟩
      exact ⟨rfl, h⟩
    · rintro ⟨rfl, -⟩
      rfl
  · rw [hrefused]
    exact ⟨nofun, fun ⟨members, hobject, _⟩ => absurd hobject (h members)⟩
  · rw [hrefused]
    exact ⟨nofun, fun ⟨members, hobject, _⟩ => absurd hobject (h members)⟩

theorem payloadLaw_object (hnames : (Members.names members).Nodup) :
    PayloadLaw (.object members) := by
  have htraces : ∀ ms d, Value.object members = .object ms →
      Dataset.ofJson (.object members) = .ok d → TracesLaw ms d.traces := by
    rintro ms d ⟨⟩ hok
    exact tracesLaw_ofJson hnames hok
  cases htime : Members.get? members timeKey with
  | none =>
    have hrefused := ofJson_of_no_time htime
    have habsent := Members.get?_eq_none_iff.mp htime
    refine ⟨fun text => ?_, ?_, ?_, htraces⟩
    · rw [hrefused]
      exact ⟨nofun, fun ⟨_, hother⟩ => absurd rfl (hother members)⟩
    · exact ⟨fun _ => ⟨members, rfl, habsent⟩, fun _ => hrefused⟩
    · rw [hrefused]
      refine ⟨nofun, ?_⟩
      rintro ⟨ms, ⟨⟩, hpresent⟩
      exact absurd hpresent habsent
  | some time =>
    have haccepted := ofJson_of_time htime
    have hpresent : timeKey ∈ Members.names members :=
      List.mem_map_of_mem (Members.mem_of_get? htime)
    refine ⟨fun text => ?_, ?_, ?_, htraces⟩
    · rw [haccepted]
      exact ⟨nofun, fun ⟨_, hother⟩ => absurd rfl (hother members)⟩
    · rw [haccepted]
      refine ⟨nofun, ?_⟩
      rintro ⟨ms, ⟨⟩, habsent⟩
      exact absurd hpresent habsent
    · exact ⟨fun _ => ⟨members, rfl, hpresent⟩, fun _ => ⟨_, haccepted⟩⟩

/-- **From the document to the traces**, without loss or shift, and without a trace of the time axis
itself. -/
theorem payload_law {v : Value} (hv : v.Distinct) : PayloadLaw v := by
  cases v with
  | object members => exact payloadLaw_object hv.names
  | _ => exact payloadLaw_of_not_object nofun

/-- A document with its time axis between two series, the first one shorter and the second one with
a gap. -/
def gapDocument : Value := .object
  [("v1", .array [.number (.natural 5), .number (.negative 6)]),
    (timeKey, .array [.number (.natural 0), .number (.real 0.5), .number (.natural 1)]),
    ("v2", .array [.number (.real 7.25), .null, .number (.natural 9)])]

theorem payload_law_gap : gapDocument.Distinct ∧ PayloadLaw gapDocument ∧
    ∃ d, Dataset.ofJson gapDocument = .ok d ∧
      d.traces.map Trace.name = ["v1", "v2"] ∧
      d.traces.map Trace.xs = [[0.0, 0.5, 1.0], [0.0, 0.5, 1.0]] ∧
      d.traces.map Trace.ys = [[5.0, -6.0], [7.25, noNumber, 9.0]] ∧
      d.traces.map Trace.points =
        [[(0.0, 5.0), (0.5, -6.0)], [(0.0, 7.25), (0.5, noNumber), (1.0, 9.0)]] := by
  have hdistinct : gapDocument.Distinct := by
    refine .object (by decide) fun member hmember => ?_
    simp only [List.mem_cons, List.not_mem_nil, or_false] at hmember
    rcases hmember with rfl | rfl | rfl <;> refine .array fun item hitem => ?_ <;>
      simp only [List.mem_cons, List.not_mem_nil, or_false] at hitem
    · rcases hitem with rfl | rfl <;> exact .number _
    · rcases hitem with rfl | rfl | rfl <;> exact .number _
    · rcases hitem with rfl | rfl | rfl
      · exact .number _
      · exact .null
      · exact .number _
  exact ⟨hdistinct, payload_law hdistinct, _, rfl, rfl, by decide, by decide, by decide⟩

end ResultsBoard.Series
