import ResultsBoard.Board.Start
import ResultsBoard.Proofs.Json.Names

/-!
# The settings at the start

The board starts with settings (`DashboardConfig::load`) that are valid whatever the page holds, and
their root follows the location of the page alone. A settings document is taken as a whole or not at
all.

* `Settings.validate_iff`: what valid settings are. The root is no part of it.
* `Settings.apiBase_readDocument`: no settings document, in its object form or its array form, sets
  the root.
* `Settings.atStart_*`: what the board starts with when there is no document, when it is accepted,
  and when it is refused by the reader or by the check.
* `StartLaw`, `start_law`: the settings that the board starts with on any page.
-/

namespace ResultsBoard

open Json

namespace Settings

variable {s : Settings} {p : Page} {text : String} {fault : SettingsFault}

/-! ## Valid settings -/

theorem level_ok_or (s : Settings) :
    (∃ level, s.level = .ok level) ∨ s.level = .error (.unknownLevel s.logLevel) := by
  unfold level
  split
  · exact .inl ⟨_, rfl⟩
  · exact .inr rfl

/-- **What valid settings are.** -/
theorem validate_iff (s : Settings) :
    s.validate = .ok () ↔
      0 < s.retryBaseDelay ∧ s.retryBaseDelay ≤ s.retryMaxDelay ∧ ∃ level, s.level = .ok level := by
  have hzero : s.retryBaseDelay = 0 ↔ ¬ 0 < s.retryBaseDelay := by
    rw [UInt32.pos_iff_ne_zero, Classical.not_not]
  have hbelow : s.retryMaxDelay < s.retryBaseDelay ↔ ¬ s.retryBaseDelay ≤ s.retryMaxDelay :=
    UInt32.not_le.symm
  unfold validate
  constructor
  · intro h
    split at h
    · cases h
    · rename_i hpositive
      split at h
      · cases h
      · rename_i hordered
        rw [hzero, Classical.not_not] at hpositive
        rw [hbelow, Classical.not_not] at hordered
        refine ⟨hpositive, hordered, ?_⟩
        rcases s.level_ok_or with hlevel | hunknown
        · exact hlevel
        · rw [hunknown] at h
          cases h
  · rintro ⟨hpositive, hordered, level, hlevel⟩
    rw [if_neg (fun h => hzero.mp h hpositive), if_neg (fun h => hbelow.mp h hordered), hlevel]
    rfl

/-- The root is not checked. -/
theorem validate_withRoot (s : Settings) (root : String) :
    ({ s with apiBase := root } : Settings).validate = s.validate := rfl

/-! ## Documents -/

/-- A value that is read into a field leaves the root alone. -/
theorem apiBase_readField {field : Field} {c after : Cursor} {read : Settings}
    (h : readField s field c = .ok (read, after)) : read.apiBase = s.apiBase := by
  cases field <;>
  · obtain ⟨value, -, hread⟩ := exists_of_bind_eq_ok h
    cases hread
    rfl

/-- So does an array of values, -/
theorem apiBase_readList {first : Bool} {fields : List Field} {c after : Cursor} {read : Settings}
    (h : readList first fields s c = .ok (read, after)) : read.apiBase = s.apiBase := by
  induction fields generalizing first s c with
  | nil =>
    unfold readList at h
    dsimp only at h
    split at h
    · cases h
    · cases h
      rfl
    · split at h <;> cases h
    · cases h
  | cons field fields ih =>
    unfold readList at h
    obtain ⟨⟨more, c'⟩, -, hitem⟩ := exists_of_bind_eq_ok h
    cases more with
    | false =>
      cases hitem
      rfl
    | true =>
      obtain ⟨⟨between, c''⟩, hfield, hrest⟩ := exists_of_bind_eq_ok hitem
      exact (ih hrest).trans (apiBase_readField hfield)

/-- and an object, whatever the names of its members. -/
theorem apiBase_readObject {turns : Nat} {first : Bool} {seen : List Field} {c after : Cursor}
    {read : Settings} (h : readObject turns first seen s c = .ok (read, after)) :
    read.apiBase = s.apiBase := by
  induction turns generalizing first seen s c with
  | zero => cases h
  | succ turns ih =>
    unfold readObject at h
    obtain ⟨⟨name?, c'⟩, -, hmember⟩ := exists_of_bind_eq_ok h
    cases name? with
    | none =>
      cases hmember
      rfl
    | some name =>
      dsimp only at hmember
      split at hmember
      · obtain ⟨value, -, hvalue⟩ := exists_of_bind_eq_ok hmember
        obtain ⟨next, -, hrest⟩ := exists_of_bind_eq_ok hvalue
        exact ih hrest
      · split at hmember
        · cases hmember
        · obtain ⟨value, -, hvalue⟩ := exists_of_bind_eq_ok hmember
          obtain ⟨⟨between, c''⟩, hfield, hrest⟩ := exists_of_bind_eq_ok hvalue
          exact (ih hrest).trans (apiBase_readField hfield)

/-- A complaint is no result. -/
theorem mismatch_ne_ok {α : Type} (expected : String) (c : Cursor) (result : α) :
    mismatch expected c ≠ .ok result := by
  intro h
  unfold mismatch at h
  dsimp only at h
  split at h
  · cases h
  · obtain ⟨_, -, hcomplaint⟩ := exists_of_bind_eq_ok h
    cases hcomplaint
  · obtain ⟨_, -, hcomplaint⟩ := exists_of_bind_eq_ok h
    cases hcomplaint
  · obtain ⟨_, -, hcomplaint⟩ := exists_of_bind_eq_ok h
    cases hcomplaint
  · obtain ⟨_, -, hcomplaint⟩ := exists_of_bind_eq_ok h
    cases hcomplaint
  · cases h
  · cases h
  · split at h
    · split at h
      · obtain ⟨_, -, hcomplaint⟩ := exists_of_bind_eq_ok h
        cases hcomplaint
      · obtain ⟨_, -, hcomplaint⟩ := exists_of_bind_eq_ok h
        cases hcomplaint
    · cases h

/-- **No settings document sets the root.** -/
theorem apiBase_readDocument {c after : Cursor} {read : Settings}
    (h : readDocument c = .ok (read, after)) : read.apiBase = defaultApiBase := by
  unfold readDocument at h
  dsimp only at h
  split at h
  · cases h
  · exact apiBase_readList h
  · exact apiBase_readObject h
  · exact absurd h (mismatch_ne_ok _ _ _)

/-- A text read as a settings document, before the check. -/
def read (text : String) : Except Fault Settings := readDocument (.ofText text) >>= finish

theorem apiBase_read (h : read text = .ok s) : s.apiBase = defaultApiBase := by
  obtain ⟨⟨parsed, after⟩, hdocument, hfinish⟩ := exists_of_bind_eq_ok h
  unfold finish at hfinish
  dsimp only at hfinish
  split at hfinish
  · cases hfinish
    exact apiBase_readDocument hdocument
  · cases hfinish

theorem ofText_of_unreadable {cause : Fault} (h : read text = .error cause) :
    ofText text = .error (.unreadable cause) := by
  unfold ofText
  unfold read at h
  rw [h]
  rfl

theorem ofText_of_read (h : read text = .ok s) : ofText text = s.validate.map fun _ => s := by
  unfold ofText
  unfold read at h
  rw [h]
  show (s.validate >>= fun _ => .ok s) = _
  cases s.validate <;> rfl

/-- **A text is refused by the reader or by the check.** -/
theorem ofText_error_iff : ofText text = .error fault ↔
    (∃ cause, read text = .error cause ∧ fault = .unreadable cause) ∨
      ∃ s, read text = .ok s ∧ s.validate = .error fault := by
  cases hread : read text with
  | error cause =>
    rw [ofText_of_unreadable hread]
    simp [eq_comm]
  | ok s =>
    rw [ofText_of_read hread]
    cases hvalid : s.validate <;> simp [Except.map, hvalid]

/-- It is accepted if both have nothing to say. -/
theorem ofText_ok_iff : ofText text = .ok s ↔ read text = .ok s ∧ s.validate = .ok () := by
  cases hread : read text with
  | error cause =>
    rw [ofText_of_unreadable hread]
    simp
  | ok other =>
    rw [ofText_of_read hread]
    cases hvalid : other.validate with
    | error fault =>
      simp only [Except.map, reduceCtorEq, Except.ok.injEq, false_iff, not_and]
      rintro rfl
      rw [hvalid]
      exact fun h => nomatch h
    | ok _ =>
      simp only [Except.map, Except.ok.injEq]
      refine ⟨?_, And.left⟩
      rintro rfl
      exact ⟨rfl, hvalid⟩

/-! ## Pages -/

/-- Without a document the board starts with the defaults. -/
theorem atStart_of_no_text (h : p.settingsText? = none) : atStart p = (ofLocation p, none) := by
  unfold atStart load
  rw [h]
  rfl

/-- With a document that is accepted it starts with the settings in it, -/
theorem atStart_of_accepted (htext : p.settingsText? = some text) (h : ofText text = .ok s) :
    atStart p = ({ s with apiBase := p.apiBase }, none) := by
  unfold atStart load
  rw [htext]
  dsimp only
  rw [h]
  rfl

/-- and with one that is refused it starts with the defaults. -/
theorem atStart_of_refused (htext : p.settingsText? = some text) (h : ofText text = .error fault) :
    atStart p = (ofLocation p, some fault) := by
  unfold atStart load
  rw [htext]
  dsimp only
  rw [h]
  rfl

theorem validate_ofLocation (p : Page) : (ofLocation p).validate = .ok () :=
  (validate_withRoot default p.apiBase).trans validate_default

/-- **What the board starts with**, when there is no document, when it is accepted and when it is
refused. -/
theorem atStart_cases (p : Page) :
    (p.settingsText? = none ∧ atStart p = (ofLocation p, none)) ∨
    (∃ text s, p.settingsText? = some text ∧ ofText text = .ok s ∧
      atStart p = ({ s with apiBase := p.apiBase }, none)) ∨
    ∃ text fault, p.settingsText? = some text ∧ ofText text = .error fault ∧
      atStart p = (ofLocation p, some fault) := by
  cases htext : p.settingsText? with
  | none => exact .inl ⟨rfl, atStart_of_no_text htext⟩
  | some text =>
    refine .inr ?_
    cases hread : ofText text with
    | error fault => exact .inr ⟨text, fault, rfl, hread, atStart_of_refused htext hread⟩
    | ok s => exact .inl ⟨text, s, rfl, hread, atStart_of_accepted htext hread⟩

theorem validate_atStart (p : Page) : (atStart p).1.validate = .ok () := by
  rcases atStart_cases p with ⟨-, heq⟩ | ⟨text, s, -, hread, heq⟩ | ⟨text, fault, -, -, heq⟩
  · rw [heq]
    exact validate_ofLocation p
  · rw [heq]
    exact (validate_withRoot s p.apiBase).trans (ofText_ok_iff.mp hread).2
  · rw [heq]
    exact validate_ofLocation p

theorem apiBase_atStart (p : Page) : (atStart p).1.apiBase = p.apiBase := by
  rcases atStart_cases p with ⟨-, heq⟩ | ⟨text, s, -, -, heq⟩ | ⟨text, fault, -, -, heq⟩
  · rw [heq]
    rfl
  · rw [heq]
  · rw [heq]
    rfl

end Settings

/-- Two pages at the same location have the same root. -/
theorem Page.apiBase_congr {p q : Page} (hwindow : q.window = p.window)
    (hhostname : q.hostname = p.hostname) (hnumber : q.hostNumber = p.hostNumber) :
    q.apiBase = p.apiBase := by
  unfold Page.apiBase Page.locationApiBase?
  rw [hwindow, hhostname, hnumber]

/-! ## The law -/

open Settings in
/-- **The settings that the board starts with on a page.** -/
structure StartLaw (p : Page) : Prop where
  /-- They are valid. -/
  valid : (atStart p).1.validate = .ok ()
  delays : 0 < (atStart p).1.retryBaseDelay ∧
    (atStart p).1.retryBaseDelay ≤ (atStart p).1.retryMaxDelay
  /-- The log is opened at the level that they name; none is ever assumed for want of a name. -/
  level : ∃ level, (atStart p).1.level = .ok level ∧
    ∀ server logTaken, (start p server logTaken).head? = some (.opening level)
  /-- Their root is the one that the location gives. -/
  root : (atStart p).1.apiBase = (ofLocation p).apiBase
  /-- On a page with the same location it is the same, whatever its document holds. -/
  located : ∀ q : Page, q.window = p.window → q.hostname = p.hostname →
    q.hostNumber = p.hostNumber → (atStart q).1.apiBase = (atStart p).1.apiBase
  /-- Without a document they are the defaults. -/
  bare : p.settingsText? = none → (atStart p).1 = { default with apiBase := p.apiBase }
  /-- Of a document that the reader or the check refuses nothing is kept. -/
  refused : ∀ text, p.settingsText? = some text →
    ((∃ cause, read text = .error cause) ∨ ∃ s, read text = .ok s ∧ s.validate ≠ .ok ()) →
      (atStart p).1 = { default with apiBase := p.apiBase }
  /-- All other documents are taken as they are but for the root, which none of them sets. -/
  accepted : ∀ text s, p.settingsText? = some text → read text = .ok s → s.validate = .ok () →
    (atStart p).1 = { s with apiBase := p.apiBase } ∧ s.apiBase = defaultApiBase
  /-- The warning about the document says why it has been refused, and there is one only then. -/
  fault : ∀ fault, (atStart p).2 = some fault ↔
    ∃ text, p.settingsText? = some text ∧ ofText text = .error fault

open Settings in
/-- **The board starts with valid settings whose root no document has a say in**, on every page. -/
theorem start_law (p : Page) : StartLaw p := by
  have hvalid := validate_atStart p
  obtain ⟨hpositive, hordered, level, hlevel⟩ := (validate_iff _).mp hvalid
  refine ⟨hvalid, ⟨hpositive, hordered⟩, ⟨level, hlevel, fun server logTaken => ?_⟩,
    apiBase_atStart p, fun q hwindow hhostname hnumber => ?_, fun htext => ?_,
    fun text htext hrefused => ?_, fun text s htext hread hchecked => ?_, fun fault => ?_⟩
  · have hstart : (atStart p).1.startLevel = level := by
      unfold startLevel
      rw [hlevel]
    unfold start
    simp only [List.cons_append, List.nil_append, List.head?_cons]
    rw [hstart]
  · rw [apiBase_atStart q, apiBase_atStart p]
    exact Page.apiBase_congr hwindow hhostname hnumber
  · rw [atStart_of_no_text htext]
    rfl
  · have hfault : ∃ fault, ofText text = .error fault := by
      rcases hrefused with ⟨cause, hread⟩ | ⟨s, hread, hinvalid⟩
      · exact ⟨_, ofText_of_unreadable hread⟩
      · cases hcheck : s.validate with
        | error fault => exact ⟨fault, ofText_error_iff.mpr (.inr ⟨s, hread, hcheck⟩)⟩
        | ok _ => exact absurd hcheck hinvalid
    obtain ⟨fault, hfault⟩ := hfault
    rw [atStart_of_refused htext hfault]
    rfl
  · rw [atStart_of_accepted htext (ofText_ok_iff.mpr ⟨hread, hchecked⟩)]
    exact ⟨rfl, apiBase_read hread⟩
  · constructor
    · intro h
      rcases atStart_cases p with ⟨-, heq⟩ | ⟨text, s, -, -, heq⟩ | ⟨text, other, htext, hread, heq⟩
      · rw [heq] at h
        cases h
      · rw [heq] at h
        cases h
      · rw [heq] at h
        cases h
        exact ⟨text, htext, hread⟩
    · rintro ⟨text, htext, hread⟩
      rw [atStart_of_refused htext hread]

end ResultsBoard
