import Mathlib.Data.Nat.Find
import Mathlib.Order.Bounds.Basic
import ResultsBoard.Metadata.Document
import ResultsBoard.Proofs.Json.Names
import ResultsBoard.Series.Dataset

/-!
# Fetches with retries

A fetch (`get_with_retry`) sends requests until an answer is not worth another attempt or the
retries are used up. The last attempt is the least number for which one of the two holds (`Final`),
and everything that a fetch does follows from it.

* `attempts_eq`: the attempts from any number on, in closed form.
* `loopWithin`, `loopWithin_eq`: the loop over the answers as they come, watched for some turns. It
  ends, and with what `attempts` gives, which takes its answers by their numbers.
* `DatasetRefused`, `NotAnObject`: the values that are no documents, and what is said of them.
* `fetch_law`: requests, waits, warnings and results of the three fetches.
-/

namespace ResultsBoard.Fetch

open Json

variable {s : Settings} {resource : Resource} {answers : Nat → Answer} {last : Nat}

/-! ## Answers -/

/-- Whether the server has accepted the request. -/
def Answer.Accepted : Answer → Prop
  | .unreachable _ => False
  | .response status _ _ => 200 ≤ status ∧ status ≤ 299

/-- Whether another attempt may fare better: there was no response, or the server has a problem. -/
def Answer.MayPass : Answer → Prop
  | .unreachable _ => True
  | .response status _ _ => ¬ (200 ≤ status ∧ status ≤ 299) ∧ 500 ≤ status

/-- What went wrong, if the request has not been accepted. -/
def Answer.failure : Answer → Failure
  | .unreachable text => .network text
  | .response status text _ => .status status text

/-- The numbers at which a fetch does not go on: the answer is not worth another attempt, or the
retries are used up. -/
def Final (s : Settings) (answers : Nat → Answer) : Set Nat :=
  {i | ¬ (answers i).MayPass ∨ i = s.fetchRetries.toNat}

section

variable {status : UInt16} {text body : String} {fault : Fault} {value : Value}

theorem receive_of_refused (h : ¬ (200 ≤ status ∧ status ≤ 299)) :
    receive resource (.response status text body) = .error (.status status text) := if_neg h

theorem receive_of_malformed (h : 200 ≤ status ∧ status ≤ 299)
    (hparse : Value.parse body = .error fault) :
    receive resource (.response status text body) =
      .error (.parse (resource.path ++ ": " ++ fault.message)) := by
  unfold receive
  dsimp only
  rw [if_pos h, hparse]

theorem receive_of_parsed (h : 200 ≤ status ∧ status ≤ 299)
    (hparse : Value.parse body = .ok value) :
    receive resource (.response status text body) = .ok value := by
  unfold receive
  dsimp only
  rw [if_pos h, hparse]

end

theorem Answer.Accepted.not_mayPass {answer : Answer} (h : answer.Accepted) : ¬ answer.MayPass := by
  cases answer with
  | unreachable text => exact h.elim
  | response status text body => exact fun hpass => hpass.1 h

/-- An answer that may pass is a failure that may pass. -/
theorem Answer.MayPass.receive {answer : Answer} (h : answer.MayPass) (resource : Resource) :
    receive resource answer = .error answer.failure ∧ answer.failure.isRetryable = true := by
  cases answer with
  | unreachable text => exact ⟨rfl, rfl⟩
  | response status text body =>
    obtain ⟨hrefused, hserver⟩ := h
    exact ⟨receive_of_refused hrefused, decide_eq_true hserver⟩

/-- No other answer is. -/
theorem isRetryable_of_not_mayPass {answer : Answer} (h : ¬ answer.MayPass) {failure : Failure}
    (hfailure : receive resource answer = .error failure) : failure.isRetryable = false := by
  cases answer with
  | unreachable text => exact absurd trivial h
  | response status text body =>
    unfold receive at hfailure
    dsimp only at hfailure
    split at hfailure
    · split at hfailure
      · cases hfailure
      · cases hfailure
        rfl
    · rename_i hrefused
      cases hfailure
      exact decide_eq_false fun hserver => h ⟨hrefused, hserver⟩

theorem Answer.MayPass.shouldRetry {answer : Answer} (h : answer.MayPass) {attempt : UInt32}
    (hlt : attempt < s.fetchRetries) :
    shouldRetry answer.failure attempt s.fetchRetries = true := by
  obtain ⟨-, hretryable⟩ := h.receive .data
  simp [Fetch.shouldRetry, hretryable, hlt]

theorem shouldRetry_of_final {answer : Answer} {attempt : UInt32}
    (hfinal : ¬ answer.MayPass ∨ attempt = s.fetchRetries) {failure : Failure}
    (hfailure : receive resource answer = .error failure) :
    ¬ shouldRetry failure attempt s.fetchRetries = true := by
  intro hretry
  simp only [shouldRetry, Bool.and_eq_true, decide_eq_true_eq] at hretry
  rcases hfinal with hpermanent | hused
  · rw [isRetryable_of_not_mayPass hpermanent hfailure] at hretry
    exact Bool.false_ne_true hretry.1
  · rw [hused] at hretry
    exact UInt32.lt_irrefl _ hretry.2

/-! ## One attempt -/

/-- The warning between attempt number `i` and the next one. -/
def warning (s : Settings) (resource : Resource) (answers : Nat → Answer) (i : Nat) : LogLine :=
  .warn (resource.path ++ " failed (" ++ (answers i).failure.message ++ "); retry " ++
    toString (i + 1) ++ "/" ++ toString s.fetchRetries.toNat ++ " in " ++
    toString (s.retryDelay (.ofNat i)).toNat ++ "ms")

/-- What happens in attempt number `i` and before the next one. -/
def turn (s : Settings) (resource : Resource) (answers : Nat → Answer) (i : Nat) : List Event :=
  [.logged (.debug ("GET " ++ s.resourceUrl resource.path)),
    .requested (s.resourceUrl resource.path),
    .logged (warning s resource answers i),
    .waited (s.retryDelay (.ofNat i))]

/-- A run after one more attempt. -/
def Run.after {α : Type} (run : Run α) (events : List Event) : Run α :=
  ⟨run.result, run.used + 1, events ++ run.events⟩

/-- An attempt that is not the last one. -/
theorem attempts_of_mayPass {attempt : UInt32} (hpass : (answers attempt.toNat).MayPass)
    (hlt : attempt < s.fetchRetries) :
    attempts s resource answers attempt =
      (attempts s resource answers (attempt + 1)).after (asking s resource ++
        backingOff s resource (answers attempt.toNat).failure attempt) := by
  rw [attempts, (hpass.receive resource).1]
  dsimp only
  rw [dif_pos (hpass.shouldRetry hlt)]
  rfl

/-- The last attempt. -/
theorem attempts_of_final {attempt : UInt32}
    (hfinal : ¬ (answers attempt.toNat).MayPass ∨ attempt = s.fetchRetries) :
    attempts s resource answers attempt =
      ⟨receive resource (answers attempt.toNat), 1, asking s resource⟩ := by
  rw [attempts]
  split
  · rename_i value hreceive
    rw [hreceive]
  · rename_i failure hreceive
    rw [dif_neg (shouldRetry_of_final hfinal hreceive), hreceive]

/-! ## The number of the last attempt -/

/-- Some attempt is the last one: at the latest the one after which no retries are left. -/
theorem exists_last (s : Settings) (answers : Nat → Answer) :
    ∃ last, IsLeast (Final s answers) last := by
  classical
  have hfinal : ∃ i, i ∈ Final s answers := ⟨s.fetchRetries.toNat, .inr rfl⟩
  exact ⟨Nat.find hfinal, Nat.find_spec hfinal, fun i hi => Nat.find_min' hfinal hi⟩

theorem le_fetchRetries (h : IsLeast (Final s answers) last) : last ≤ s.fetchRetries.toNat :=
  h.2 (.inr rfl)

/-- **The counter of the attempts has room** for all of them. -/
theorem toNat_counter (h : IsLeast (Final s answers) last) {i : Nat} (hi : i ≤ last) :
    (UInt32.ofNat i).toNat = i := by
  have hle := le_fetchRetries h
  have hword := s.fetchRetries.toNat_lt
  exact UInt32.toNat_ofNat_of_lt' (show i < 2 ^ 32 by omega)

/-- Before the last attempt each answer is worth another one, and there are retries left. -/
theorem goes_on (h : IsLeast (Final s answers) last) {i : Nat} (hi : i < last) :
    (answers i).MayPass ∧ UInt32.ofNat i < s.fetchRetries := by
  have hnot : i ∉ Final s answers := fun hmem => absurd (h.2 hmem) (by omega)
  have hpass : (answers i).MayPass := by
    by_contra hpermanent
    exact hnot (.inl hpermanent)
  refine ⟨hpass, ?_⟩
  rw [UInt32.lt_iff_toNat_lt, toNat_counter h (Nat.le_of_lt hi)]
  exact Nat.lt_of_lt_of_le hi (le_fetchRetries h)

theorem stops (h : IsLeast (Final s answers) last) :
    ¬ (answers last).MayPass ∨ UInt32.ofNat last = s.fetchRetries := by
  rcases h.1 with hpermanent | hused
  · exact .inl hpermanent
  · exact .inr (by rw [hused, UInt32.ofNat_toNat])

/-! ## All attempts -/

theorem turn_eq (h : IsLeast (Final s answers) last) {i : Nat} (hi : i < last) :
    asking s resource ++ backingOff s resource (answers i).failure (.ofNat i) =
      turn s resource answers i := by
  have hnext : (UInt32.ofNat i + 1).toNat = i + 1 := by
    have := toNat_counter h (i := i + 1) hi
    rwa [UInt32.ofNat_add] at this
  unfold turn warning asking backingOff
  dsimp only
  rw [hnext]
  rfl

/-- **The attempts from number `i` on**, `n` of them before the last one. -/
theorem attempts_eq (h : IsLeast (Final s answers) last) {i n : Nat} (hn : i + n = last) :
    attempts s resource answers (.ofNat i) =
      ⟨receive resource (answers last), n + 1,
        (List.range' i n).flatMap (turn s resource answers) ++ asking s resource⟩ := by
  induction n generalizing i with
  | zero =>
    obtain rfl : i = last := hn
    have hcounter := toNat_counter h (Nat.le_refl i)
    have hfinal := stops h
    rw [attempts_of_final (by rw [hcounter]; exact hfinal), hcounter]
    rfl
  | succ n ih =>
    have hi : i < last := by omega
    have hcounter := toNat_counter h (Nat.le_of_lt hi)
    obtain ⟨hpass, hlt⟩ := goes_on h hi
    have hnext : UInt32.ofNat i + 1 = UInt32.ofNat (i + 1) := (UInt32.ofNat_add i 1).symm
    rw [attempts_of_mayPass (by rw [hcounter]; exact hpass) hlt, hcounter, turn_eq h hi, hnext,
      ih (by omega), List.range'_succ, List.flatMap_cons, List.append_assoc]
    rfl

theorem get_eq (h : IsLeast (Final s answers) last) :
    get s resource answers =
      ⟨receive resource (answers last), last + 1,
        (List.range last).flatMap (turn s resource answers) ++ asking s resource⟩ := by
  rw [List.range_eq_range']
  exact attempts_eq h (Nat.zero_add last)

/-! ## The loop -/

/-- The loop over the answers in the order in which they come, watched for at most some turns:
nothing if it has not ended by then. Its counter is a number of 32 bits that may overflow. -/
def loopWithin (s : Settings) (resource : Resource) :
    Nat → (Nat → Answer) → UInt32 → Option (Run Value)
  | 0, _, _ => none
  | turns + 1, answers, attempt =>
    match receive resource (answers 0) with
    | .ok value => some ⟨.ok value, 1, asking s resource⟩
    | .error failure =>
      if shouldRetry failure attempt s.fetchRetries then
        (loopWithin s resource turns (fun i => answers (i + 1)) (attempt + 1)).map fun rest =>
          rest.after (asking s resource ++ backingOff s resource failure attempt)
      else some ⟨.error failure, 1, asking s resource⟩

/-- **The loop ends**, exactly after the last attempt. -/
theorem loopWithin_eq (h : IsLeast (Final s answers) last) (turns : Nat) {i : Nat} (hi : i ≤ last) :
    loopWithin s resource turns (fun j => answers (j + i)) (.ofNat i) =
      if last < i + turns then some (attempts s resource answers (.ofNat i)) else none := by
  have hcounter := toNat_counter h hi
  induction turns generalizing i with
  | zero =>
    rw [if_neg (by omega)]
    rfl
  | succ turns ih =>
    rcases Nat.lt_or_eq_of_le hi with hlt | rfl
    · obtain ⟨hpass, hretries⟩ := goes_on h hlt
      have hnext : UInt32.ofNat i + 1 = UInt32.ofNat (i + 1) := (UInt32.ofNat_add i 1).symm
      have hshift : (fun j => answers (j + 1 + i)) = fun j => answers (j + (i + 1)) := by
        funext j
        rw [Nat.add_assoc, Nat.add_comm 1 i]
      rw [attempts_of_mayPass (by rw [hcounter]; exact hpass) hretries, hcounter]
      unfold loopWithin
      simp only [Nat.zero_add, (hpass.receive resource).1]
      rw [if_pos (hpass.shouldRetry hretries), hshift, hnext, ih hlt (toNat_counter h hlt)]
      by_cases hmore : last < i + (turns + 1)
      · rw [if_pos hmore, if_pos (by omega)]
        rfl
      · rw [if_neg hmore, if_neg (by omega)]
        rfl
    · have hfinal := stops h
      have hone : attempts s resource answers (.ofNat i) =
          ⟨receive resource (answers (UInt32.ofNat i).toNat), 1, asking s resource⟩ :=
        attempts_of_final (by rw [hcounter]; exact hfinal)
      rw [if_pos (by omega), hone, hcounter]
      unfold loopWithin
      simp only [Nat.zero_add]
      split
      · rename_i value hreceive
        rw [hreceive]
      · rename_i failure hreceive
        rw [if_neg (shouldRetry_of_final hfinal hreceive), hreceive]

/-! ## The law -/

/-- The address of a request. -/
def Event.request? : Event → Option String
  | .requested url => some url
  | .logged _ | .waited _ => none

/-- The length of a wait. -/
def Event.delay? : Event → Option UInt32
  | .waited milliseconds => some milliseconds
  | .logged _ | .requested _ => none

/-- The line of a warning. -/
def Event.warning? : Event → Option LogLine
  | .logged line => if line.level = .warn then some line else none
  | .requested _ | .waited _ => none

/-- **What a fetch does** whose last attempt has the number `last`, counted from zero, and whose
document is decoded by `decode`, which refuses the values that are `Refused`. -/
structure FetchLaw {α : Type} (s : Settings) (resource : Resource)
    (decode : Value → Except Failure α) (Refused : Value → Failure → Prop)
    (answers : Nat → Answer) (last : Nat) (fetch : (Nat → Answer) → Run α) : Prop where
  /-- The loop over the answers, as they come, ends after the last attempt. -/
  ends : ∀ turns, loopWithin s resource turns answers 0 =
    if last < turns then some (get s resource answers) else none
  /-- The counter of the attempts does not overflow. -/
  counter : ∀ i ≤ last, ((fun attempt : UInt32 => attempt + 1)^[i] 0).toNat = i
  /-- All that happens, in order. -/
  events : (fetch answers).events = (List.range last).flatMap (turn s resource answers) ++
    [.logged (.debug ("GET " ++ s.resourceUrl resource.path)),
      .requested (s.resourceUrl resource.path)]
  requests : (fetch answers).events.filterMap Event.request? =
    List.replicate (last + 1) (s.resourceUrl resource.path)
  delays : (fetch answers).events.filterMap Event.delay? =
    (List.range last).map fun i => s.retryDelay (.ofNat i)
  warnings : (fetch answers).events.filterMap Event.warning? =
    (List.range last).map (warning s resource answers)
  /-- As many answers are used as there are requests, and no others are looked at. -/
  used : (fetch answers).used = last + 1
  unread : ∀ others, (∀ i ≤ last, others i = answers i) → fetch others = fetch answers
  /-- An accepted request is never tried again, whatever its body is. -/
  accepted : ∀ i, (answers i).Accepted → last ≤ i
  /-- The result is what the last answer says. -/
  unreachable : ∀ text, answers last = .unreachable text →
    (fetch answers).result = .error (.network text)
  refused : ∀ status text body, answers last = .response status text body →
    ¬ (200 ≤ status ∧ status ≤ 299) → (fetch answers).result = .error (.status status text)
  malformed : ∀ status text body fault, answers last = .response status text body →
    200 ≤ status ∧ status ≤ 299 → Value.parse body = .error fault →
      (fetch answers).result = .error (.parse (resource.path ++ ": " ++ fault.message))
  decoded : ∀ status text body value, answers last = .response status text body →
    200 ≤ status ∧ status ≤ 299 → Value.parse body = .ok value →
      (fetch answers).result = decode value
  /-- A document of the wrong shape says so, -/
  misshapen : ∀ value failure, decode value = .error failure →
    (∃ text, failure = .parse text) ∨ ∃ key, failure = .missingKey key
  /-- and these are the documents of the wrong shape. -/
  shape : ∀ value failure, decode value = .error failure ↔ Refused value failure

/-- What a kind of event is in a fetch, if it is one thing in each turn. -/
theorem filterMap_events {β : Type} (h : IsLeast (Final s answers) last)
    (kind : Event → Option β) (of : Nat → β)
    (hturn : ∀ i, (turn s resource answers i).filterMap kind = [of i]) :
    (get s resource answers).events.filterMap kind =
      (List.range last).map of ++ (asking s resource).filterMap kind := by
  rw [get_eq h, List.filterMap_append, List.filterMap_flatMap]
  simp only [hturn]
  rw [← List.map_eq_flatMap]

theorem counter_eq (i : Nat) :
    (fun attempt : UInt32 => attempt + 1)^[i] 0 = UInt32.ofNat i := by
  induction i with
  | zero => rfl
  | succ i ih =>
    rw [Function.iterate_succ_apply', ih]
    exact (UInt32.ofNat_add i 1).symm

/-- The last attempt is the same if the answers up to it are. -/
theorem isLeast_of_agree (h : IsLeast (Final s answers) last) {others : Nat → Answer}
    (hsame : ∀ i ≤ last, others i = answers i) : IsLeast (Final s others) last := by
  have hiff : ∀ i ≤ last, (i ∈ Final s others ↔ i ∈ Final s answers) := by
    intro i hi
    show (¬ (others i).MayPass ∨ _) ↔ (¬ (answers i).MayPass ∨ _)
    rw [hsame i hi]
  refine ⟨(hiff last (Nat.le_refl last)).mpr h.1, fun i hi => ?_⟩
  by_contra hlt
  exact hlt (h.2 ((hiff i (by omega)).mp hi))

theorem get_of_agree (h : IsLeast (Final s answers) last) {others : Nat → Answer}
    (hsame : ∀ i ≤ last, others i = answers i) :
    get s resource others = get s resource answers := by
  have hturns : (List.range last).map (turn s resource others) =
      (List.range last).map (turn s resource answers) := by
    refine List.map_congr_left fun i hi => ?_
    unfold turn warning
    rw [hsame i (Nat.le_of_lt (List.mem_range.mp hi))]
  rw [get_eq (isLeast_of_agree h hsame), get_eq h, hsame last (Nat.le_refl last),
    List.flatMap_def, List.flatMap_def, hturns]

/-- The result of a fetch is what its last answer says. -/
theorem result_decode {α : Type} (h : IsLeast (Final s answers) last)
    (decode : Value → Except Failure α) :
    ((get s resource answers).decode decode).result =
      receive resource (answers last) >>= decode := by
  rw [get_eq h]
  rfl

/-- **The law of a fetch** of any resource. -/
theorem fetchLaw_decode {α : Type} {decode : Value → Except Failure α}
    {Refused : Value → Failure → Prop}
    (hshape : ∀ value failure, decode value = .error failure ↔ Refused value failure)
    (hkind : ∀ value failure, Refused value failure →
      (∃ text, failure = .parse text) ∨ ∃ key, failure = .missingKey key)
    (h : IsLeast (Final s answers) last) (resource : Resource) :
    FetchLaw s resource decode Refused answers last fun answers =>
      (get s resource answers).decode decode := by
  refine ⟨fun turns => ?_, fun i hi => ?_, ?_, ?_, ?_, ?_, ?_, fun others hsame => ?_,
    fun i hi => h.2 (.inl hi.not_mayPass), fun text hlast => ?_,
    fun status text body hlast hrefused => ?_, fun status text body fault hlast hok hparse => ?_,
    fun status text body value hlast hok hparse => ?_,
    fun value failure hrefused => hkind value failure ((hshape value failure).mp hrefused), hshape⟩
  · have hloop : loopWithin s resource turns answers 0 = _ :=
      loopWithin_eq h turns (Nat.zero_le last)
    rwa [Nat.zero_add] at hloop
  · rw [counter_eq]
    exact toNat_counter h hi
  · show (get s resource answers).events = _
    rw [get_eq h]
    rfl
  · refine (filterMap_events h Event.request? (fun _ => s.resourceUrl resource.path)
      fun _ => rfl).trans ?_
    rw [List.map_const', List.length_range, List.replicate_succ']
    rfl
  · exact (filterMap_events h Event.delay? (fun i => s.retryDelay (.ofNat i)) fun _ => rfl).trans
      (List.append_nil _)
  · exact (filterMap_events h Event.warning? (warning s resource answers) fun _ => rfl).trans
      (List.append_nil _)
  · show (get s resource answers).used = _
    rw [get_eq h]
  · show (get s resource others).decode decode = (get s resource answers).decode decode
    rw [get_of_agree h hsame]
  · refine (result_decode h decode).trans ?_
    rw [hlast]
    rfl
  · refine (result_decode h decode).trans ?_
    rw [hlast, receive_of_refused hrefused]
    rfl
  · refine (result_decode h decode).trans ?_
    rw [hlast, receive_of_malformed hok hparse]
    rfl
  · refine (result_decode h decode).trans ?_
    rw [hlast, receive_of_parsed hok hparse]
    rfl

/-! ## The three documents -/

/-- A value is no object, and this is said of it. -/
def NotAnObject (text : String) (value : Value) (failure : Failure) : Prop :=
  (∀ members, value ≠ .object members) ∧ failure = .parse text

/-- A value is no data document, and why: it is no object, or it has no time axis. -/
def DatasetRefused (value : Value) (failure : Failure) : Prop :=
  NotAnObject "dataset must be a JSON object" value failure ∨
    ∃ members, value = .object members ∧ "time" ∉ Members.names members ∧
      failure = .missingKey "time"

/-- A decoder that takes objects and nothing else. -/
theorem refused_iff_of_object {α : Type} {decode : Value → Except Failure α} {text : String}
    (hobject : ∀ members, ∃ document, decode (.object members) = .ok document)
    (hother : ∀ value, (∀ members, value ≠ .object members) → decode value = .error (.parse text))
    (value : Value) (failure : Failure) :
    decode value = .error failure ↔ NotAnObject text value failure := by
  constructor
  · intro h
    have hvalue : ∀ members, value ≠ .object members := by
      rintro members rfl
      obtain ⟨document, hdocument⟩ := hobject members
      rw [hdocument] at h
      cases h
    rw [hother value hvalue] at h
    exact ⟨hvalue, (Except.error.inj h).symm⟩
  · rintro ⟨hvalue, rfl⟩
    exact hother value hvalue

theorem document_refused_iff (value : Value) (failure : Failure) :
    Metadata.Document.ofJson value = .error failure ↔
      NotAnObject "options document must be a JSON object" value failure := by
  have hobject (members : Members) :
      ∃ document, Metadata.Document.ofJson (.object members) = .ok document := ⟨_, rfl⟩
  refine refused_iff_of_object hobject (fun value hvalue => ?_) value failure
  cases value with
  | object members => exact absurd rfl (hvalue members)
  | _ => rfl

theorem properties_refused_iff (value : Value) (failure : Failure) :
    Metadata.Properties.ofJson value = .error failure ↔
      NotAnObject "model document must be a JSON object" value failure := by
  have hobject (members : Members) :
      ∃ document, Metadata.Properties.ofJson (.object members) = .ok document := ⟨_, rfl⟩
  refine refused_iff_of_object hobject (fun value hvalue => ?_) value failure
  cases value with
  | object members => exact absurd rfl (hvalue members)
  | _ => rfl

theorem dataset_refused_iff (value : Value) (failure : Failure) :
    Series.Dataset.ofJson value = .error failure ↔ DatasetRefused value failure := by
  cases value with
  | object members =>
    have hobject : ¬ NotAnObject "dataset must be a JSON object" (.object members) failure :=
      fun h => h.1 members rfl
    unfold DatasetRefused Series.Dataset.ofJson
    dsimp only
    cases htime : Members.get? members Series.timeKey with
    | none =>
      have habsent := Members.get?_eq_none_iff.mp htime
      constructor
      · rintro ⟨⟩
        exact .inr ⟨members, rfl, habsent, rfl⟩
      · rintro (hother | ⟨_, _, _, rfl⟩)
        · exact absurd hother hobject
        · rfl
    | some time =>
      have hpresent : Members.get? members Series.timeKey ≠ none := by
        rw [htime]
        exact nofun
      refine iff_of_false nofun ?_
      rintro (hother | ⟨_, ⟨⟩, habsent, -⟩)
      · exact hobject hother
      · exact hpresent (Members.get?_eq_none_iff.mpr habsent)
  | _ =>
    constructor
    · rintro ⟨⟩
      exact .inl ⟨nofun, rfl⟩
    · rintro (⟨_, rfl⟩ | ⟨_, ⟨⟩, _⟩)
      rfl

/-- **What a fetch with retries does**, for all settings and all answers: there is a least number at
which the answer is not worth another attempt or the retries are used up, and the law of the fetch
holds with this number of the last attempt, for each of the three documents. -/
theorem fetch_law (s : Settings) (answers : Nat → Answer) :
    ∃ last, IsLeast {i | ¬ (answers i).MayPass ∨ i = s.fetchRetries.toNat} last ∧
      FetchLaw s .data Series.Dataset.ofJson DatasetRefused answers last (Series.fetchDataset s) ∧
      FetchLaw s .options Metadata.Document.ofJson
        (NotAnObject "options document must be a JSON object") answers last
        (Metadata.fetchOptions s) ∧
      FetchLaw s .model Metadata.Properties.ofJson
        (NotAnObject "model document must be a JSON object") answers last
        (Metadata.fetchModel s) := by
  obtain ⟨last, h⟩ := exists_last s answers
  refine ⟨last, h, ?_, ?_, ?_⟩
  · refine fetchLaw_decode dataset_refused_iff (fun value failure hrefused => ?_) h .data
    rcases hrefused with hobject | ⟨_, -, -, hkey⟩
    · exact .inl ⟨_, hobject.2⟩
    · exact .inr ⟨_, hkey⟩
  · exact fetchLaw_decode document_refused_iff (fun _ _ hrefused => .inl ⟨_, hrefused.2⟩) h .options
  · exact fetchLaw_decode properties_refused_iff (fun _ _ hrefused => .inl ⟨_, hrefused.2⟩) h .model

end ResultsBoard.Fetch
