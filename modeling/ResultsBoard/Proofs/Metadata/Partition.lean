import Mathlib
import ResultsBoard.Metadata.Document
import ResultsBoard.Proofs.Json.Names

/-!
# The parts of an options document

An options document is taken apart by its keys (`MetadataDocument::partition`): every key but the
two reserved ones is a variable, one reserved key has the properties of the model, and the other
one, about the run of the solver, has no say in anything.

* `Tabled`, `tabled_ofValue`: the properties of a value and the table of them, whose cells are
  `CellText`s.
* `Parted`, `parted_ofMembers`: the variables and the model that come of the members of a document.
* `SameBesideInfo`: two documents that differ only in what is said about the run of the solver and
  in where the model stands.
* `PartitionLaw`, `partition_law`: the parts of a document, and that those of two such documents are
  the same.
-/

namespace ResultsBoard.Metadata

open Json

/-! ## Properties -/

/-- **The text of a value in a table**: nothing for null, a text as it is, the words for the truth
values, decimal digits for whole numbers, and JSON for what is left. -/
inductive CellText : Value → String → Prop
  | null : CellText .null ""
  | text (s : String) : CellText (.text s) s
  | yes : CellText (.boolean true) "true"
  | no : CellText (.boolean false) "false"
  | natural (n : UInt64) : CellText (.number (.natural n)) (toString n.toNat)
  | negative (n : UInt64) : CellText (.number (.negative n)) ("-" ++ toString n.toNat)
  | real (x : Float) : CellText (.number (.real x)) (Value.number (.real x)).render
  | array (items : List Value) : CellText (.array items) (Value.array items).render
  | object (members : Members) : CellText (.object members) (Value.object members).render

theorem displayValue_natural (n : UInt64) :
    displayValue (.number (.natural n)) = toString n.toNat := rfl

theorem displayValue_negative (n : UInt64) :
    displayValue (.number (.negative n)) = "-" ++ toString n.toNat := by
  show String.ofList (['-'] ++ Decimal.digits n.toNat) = _
  rw [String.ofList_append]
  rfl

/-- Every value has one text. -/
theorem cellText_iff {value : Value} {cell : String} :
    CellText value cell ↔ cell = displayValue value := by
  constructor
  · intro h
    cases h with
    | natural n => exact (displayValue_natural n).symm
    | negative n => exact (displayValue_negative n).symm
    | _ => rfl
  · rintro rfl
    cases value with
    | null => exact .null
    | boolean b =>
      cases b with
      | true => exact .yes
      | false => exact .no
    | number n =>
      cases n with
      | natural n =>
        rw [displayValue_natural]
        exact .natural n
      | negative n =>
        rw [displayValue_negative]
        exact .negative n
      | real x => exact .real x
    | text s => exact .text s
    | array items => exact .array items
    | object members => exact .object members

/-- **The properties of a value**: an object has one for each member, and any other value is a
single one. -/
structure Tabled (value : Value) (p : Properties) : Prop where
  /-- The properties of an object have the names of its members, in their order, -/
  names : ∀ members, value = .object members → p.entries.map Prod.fst = Members.names members
  /-- and under each name is what the member of that name holds. -/
  get : ∀ members, value = .object members →
    ∀ name held, p.get? name = some held ↔ (name, held) ∈ members
  single : (∀ members, value ≠ .object members) → p.entries = [("value", value)]
  /-- The table has a row for each property, in their order: its name and the text of its value. -/
  rows : ∀ (i : Nat) name cell, p.rows[i]? = some (name, cell) ↔
    ∃ held, p.entries[i]? = some (name, held) ∧ CellText held cell

/-- The rows of any properties. -/
theorem getElem?_rows (p : Properties) (i : Nat) (name cell : String) :
    p.rows[i]? = some (name, cell) ↔
      ∃ held, p.entries[i]? = some (name, held) ∧ CellText held cell := by
  unfold Properties.rows
  rw [List.getElem?_map, Option.map_eq_some_iff]
  constructor
  · rintro ⟨⟨_, held⟩, hentry, ⟨⟩⟩
    exact ⟨held, hentry, cellText_iff.mpr rfl⟩
  · rintro ⟨held, hentry, hcell⟩
    exact ⟨(name, held), hentry, Prod.ext rfl (cellText_iff.mp hcell).symm⟩

theorem tabled_ofValue {value : Value} (h : value.Distinct) : Tabled value (.ofValue value) := by
  cases value with
  | object members =>
    refine ⟨?_, ?_, fun hflat => absurd rfl (hflat members), getElem?_rows _⟩
    · rintro _ ⟨⟩
      rfl
    · rintro _ ⟨⟩ name held
      exact lookup_eq_some_iff_mem h.names
  | _ => exact ⟨nofun, nofun, fun _ => rfl, getElem?_rows _⟩

/-! ## Reserved keys -/

/-- **Two keys are reserved**, in this spelling only. -/
theorem isReserved_iff (key : String) : isReserved key = true ↔ key = infoKey ∨ key = modelKey := by
  simp [isReserved, reservedKeys]

theorem not_isReserved_eq (key : String) :
    (!isReserved key) = decide (key ≠ infoKey ∧ key ≠ modelKey) := by
  rw [Bool.eq_iff_iff, Bool.not_eq_true', ← Bool.not_eq_true, isReserved_iff, not_or,
    decide_eq_true_iff]

/-! ## Parts -/

/-- **The parts of an options document.** -/
structure Parted (members : Members) (d : Document) : Prop where
  /-- The variables are named by the keys that are not reserved, in the order of the document, -/
  names : d.vars.names = (Members.names members).filter fun name =>
    name ≠ "INFO" ∧ name ≠ "APM"
  /-- each once. -/
  distinct : d.vars.names.Nodup
  /-- A variable has the properties of what stands under its name. -/
  vars : ∀ name value, (name, value) ∈ members → name ≠ "INFO" → name ≠ "APM" →
    ∃ p, d.vars.get? name = some p ∧ Tabled value p
  /-- No other text names a variable. -/
  unnamed : ∀ name, d.vars.get? name = none ↔
    name ∉ Members.names members ∨ name = "INFO" ∨ name = "APM"
  /-- The model has the properties of what stands under its key, -/
  model : ∀ value, ("APM", value) ∈ members → Tabled value d.model
  /-- and none if nothing does. -/
  bare : "APM" ∉ Members.names members → d.model.entries = []

/-- **The same but for what is said about the run of the solver**: two documents with the same
variables, in the same order, and the same model, wherever it stands. -/
structure SameBesideInfo (members others : Members) : Prop where
  vars : (others.filter fun member => member.1 ≠ "INFO" ∧ member.1 ≠ "APM") =
    members.filter fun member => member.1 ≠ "INFO" ∧ member.1 ≠ "APM"
  model : ∀ value, ("APM", value) ∈ others ↔ ("APM", value) ∈ members

variable {members others : Members}

theorem filter_not_isReserved (members : Members) :
    (members.filter fun member => !isReserved member.1) =
      members.filter fun member => member.1 ≠ infoKey ∧ member.1 ≠ modelKey :=
  List.filter_congr fun member _ => not_isReserved_eq member.1

theorem names_ofMembers (members : Members) :
    (Document.ofMembers members).vars.names =
      (Members.names members).filter fun name => name ≠ infoKey ∧ name ≠ modelKey := by
  show ((members.filter _).map _).map Prod.fst = _
  rw [filter_not_isReserved, List.map_map]
  unfold Members.names
  rw [List.filter_map]
  rfl

theorem nodup_names_ofMembers (h : (Members.names members).Nodup) :
    (Document.ofMembers members).vars.names.Nodup := by
  rw [names_ofMembers]
  exact h.filter _

/-- What stands under a key that is not reserved belongs to the variable of that name. -/
theorem get?_vars_ofMembers (h : (Members.names members).Nodup) {name : String} {value : Value}
    (hmem : (name, value) ∈ members) (hinfo : name ≠ infoKey) (hmodel : name ≠ modelKey) :
    (Document.ofMembers members).vars.get? name = some (.ofValue value) := by
  have hkept : (name, value) ∈ members.filter fun member => !isReserved member.1 := by
    rw [filter_not_isReserved, List.mem_filter]
    exact ⟨hmem, decide_eq_true ⟨hinfo, hmodel⟩⟩
  exact (lookup_eq_some_iff_mem (nodup_names_ofMembers h)).mpr (List.mem_map.mpr ⟨_, hkept, rfl⟩)

theorem get?_vars_eq_none_iff (members : Members) (name : String) :
    (Document.ofMembers members).vars.get? name = none ↔
      name ∉ Members.names members ∨ name = infoKey ∨ name = modelKey := by
  have hnone : (Document.ofMembers members).vars.get? name = none ↔
      name ∉ (Document.ofMembers members).vars.names := lookup_eq_none_iff_not_mem
  rw [hnone, names_ofMembers, List.mem_filter, decide_eq_true_iff, not_and_or, not_and_or,
    Classical.not_not, Classical.not_not]

theorem model_ofMembers {value : Value} (h : Members.get? members modelKey = some value) :
    (Document.ofMembers members).model = .ofValue value := by
  unfold Document.ofMembers
  dsimp only
  rw [h]
  rfl

theorem model_ofMembers_of_none (h : Members.get? members modelKey = none) :
    (Document.ofMembers members).model = {} := by
  unfold Document.ofMembers
  dsimp only
  rw [h]
  rfl

theorem parted_ofMembers (h : (Value.object members).Distinct) :
    Parted members (Document.ofMembers members) := by
  have hnames := h.names
  refine ⟨names_ofMembers members, nodup_names_ofMembers hnames,
    fun name value hmem hinfo hmodel => ?_, get?_vars_eq_none_iff members, fun value hmem => ?_,
    fun habsent => ?_⟩
  · exact ⟨_, get?_vars_ofMembers hnames hmem hinfo hmodel, tabled_ofValue (h.value hmem)⟩
  · rw [model_ofMembers ((Members.get?_eq_some_iff hnames).mpr hmem)]
    exact tabled_ofValue (h.value hmem)
  · rw [model_ofMembers_of_none (Members.get?_eq_none_iff.mpr habsent)]

/-- **What is said about the run of the solver does not matter**, and neither does the place of the
model. -/
theorem ofMembers_congr (h : (Members.names members).Nodup) (h' : (Members.names others).Nodup)
    (hsame : SameBesideInfo members others) :
    Document.ofMembers others = Document.ofMembers members := by
  have hget : Members.get? others modelKey = Members.get? members modelKey := by
    refine Option.ext fun value => ?_
    rw [Members.get?_eq_some_iff h', Members.get?_eq_some_iff h]
    exact hsame.model value
  have hvars : (others.filter fun member => !isReserved member.1) =
      members.filter fun member => !isReserved member.1 := by
    rw [filter_not_isReserved, filter_not_isReserved]
    exact hsame.vars
  unfold Document.ofMembers
  rw [hget, hvars]

/-! ## The law -/

/-- **How an object is taken as an options document.** -/
structure PartitionLaw (members : Members) : Prop where
  /-- It always is one. -/
  parted : ∃ d, Document.ofJson (.object members) = .ok d ∧ Parted members d
  /-- Its parts are those of every document that is the same but for the run of the solver. -/
  same : ∀ others, (Value.object others).Distinct → SameBesideInfo members others →
    Document.ofJson (.object others) = Document.ofJson (.object members)

/-- **An options document is split exactly, and the run of the solver has no say in it.** -/
theorem partition_law (h : (Value.object members).Distinct) : PartitionLaw members where
  parted := ⟨_, rfl, parted_ofMembers h⟩
  same _ hothers hsame := congrArg Except.ok (ofMembers_congr h.names hothers.names hsame)

/-- A document with a key that is reserved in another spelling, and a variable that is no object;
and the same one with the model first and a word about the solver. -/
theorem partition_law_respelled : ∃ members others,
    Value.parse ("\x7b\"apm\": \x7b\"kept\": true\x7d, " ++
        "\"APM\": \x7b\"IMODE\": 6\x7d, \"x\": 4\x7d") = .ok (.object members) ∧
      Value.parse ("\x7b\"APM\": \x7b\"IMODE\": 6\x7d, " ++
        "\"apm\": \x7b\"kept\": true\x7d, \"INFO\": [1], \"x\": 4\x7d") = .ok (.object others) ∧
      PartitionLaw members ∧ SameBesideInfo members others ∧
      Document.ofJson (.object others) = Document.ofJson (.object members) ∧
      (Document.ofMembers others).vars.names = ["apm", "x"] := by
  let whole (n : UInt64) : Value := .number (.natural n)
  let members : Members := [("apm", .object [("kept", .boolean true)]),
    ("APM", .object [("IMODE", whole 6)]), ("x", whole 4)]
  let others : Members := [("APM", .object [("IMODE", whole 6)]),
    ("apm", .object [("kept", .boolean true)]), ("INFO", .array [whole 1]), ("x", whole 4)]
  have hread : Value.parse ("\x7b\"apm\": \x7b\"kept\": true\x7d, " ++
      "\"APM\": \x7b\"IMODE\": 6\x7d, \"x\": 4\x7d") = .ok (.object members) := by
    cbv
  have hread' : Value.parse ("\x7b\"APM\": \x7b\"IMODE\": 6\x7d, " ++
      "\"apm\": \x7b\"kept\": true\x7d, \"INFO\": [1], \"x\": 4\x7d") = .ok (.object others) := by
    cbv
  have hlaw : PartitionLaw members := partition_law (Value.distinct_of_parse hread)
  have hsame : SameBesideInfo members others := ⟨rfl, fun value => by simp [members, others]⟩
  exact ⟨members, others, hread, hread', hlaw, hsame,
    hlaw.same others (Value.distinct_of_parse hread') hsame, rfl⟩

end ResultsBoard.Metadata
