import Mathlib.Data.List.Nodup
import ResultsBoard.Json.Reader

/-!
# Names in a document

A text may repeat a name, but an object that has been read has distinct names, and so has every
object inside it. A name then stands for one value.

* `Value.Distinct`, `Value.distinct_of_parse`: the objects of a document that has been read.
* `lookup_eq_some_iff_mem`, `Members.get?_eq_some_iff`: what stands under a name.
-/

namespace ResultsBoard.Json

/-- Two steps of a reader that succeed one after the other. -/
theorem exists_of_bind_eq_ok {ε α β : Type} {x : Except ε α} {f : α → Except ε β} {result : β}
    (h : x >>= f = .ok result) : ∃ a, x = .ok a ∧ f a = .ok result := by
  cases x with
  | error e => cases h
  | ok a => exact ⟨a, rfl, h⟩

/-! ## Keys -/

section

variable {α : Type} {entries : List (String × α)} {name : String} {a : α}

theorem mem_of_lookup (h : entries.lookup name = some a) : (name, a) ∈ entries := by
  obtain ⟨before, after, rfl, -⟩ := List.lookup_eq_some_iff.mp h
  exact List.mem_append_right before List.mem_cons_self

theorem lookup_eq_none_iff_not_mem : entries.lookup name = none ↔ name ∉ entries.map Prod.fst := by
  rw [List.lookup_eq_none_iff, List.mem_map]
  constructor
  · rintro hnone ⟨entry, hmem, rfl⟩
    simpa using hnone entry hmem
  · intro habsent entry hmem
    have hne : name ≠ entry.1 := fun heq => habsent ⟨entry, hmem, heq.symm⟩
    simpa using hne

/-- **Under a name stands what its only entry holds.** -/
theorem lookup_eq_some_iff_mem (h : (entries.map Prod.fst).Nodup) :
    entries.lookup name = some a ↔ (name, a) ∈ entries := by
  refine ⟨mem_of_lookup, fun hmem => ?_⟩
  cases hget : entries.lookup name with
  | none => exact absurd (List.mem_map_of_mem hmem) (lookup_eq_none_iff_not_mem.mp hget)
  | some other =>
    have hsame := List.inj_on_of_nodup_map h (mem_of_lookup hget) hmem rfl
    exact congrArg some (congrArg Prod.snd hsame)

end

/-! ## Members -/

namespace Members

variable {members : Members} {name : String} {value : Value}

theorem mem_of_get? (h : get? members name = some value) : (name, value) ∈ members :=
  mem_of_lookup h

theorem get?_eq_none_iff : get? members name = none ↔ name ∉ names members :=
  lookup_eq_none_iff_not_mem

theorem get?_eq_some_iff (h : (names members).Nodup) :
    get? members name = some value ↔ (name, value) ∈ members :=
  lookup_eq_some_iff_mem h

end Members

/-! ## Documents -/

namespace Value

/-- **All objects in a value have distinct names.** -/
inductive Distinct : Value → Prop
  | null : Distinct .null
  | boolean (b : Bool) : Distinct (.boolean b)
  | number (n : Number) : Distinct (.number n)
  | text (s : String) : Distinct (.text s)
  | array {items : List Value} (hitems : ∀ item ∈ items, Distinct item) : Distinct (.array items)
  | object {members : Members} (hnames : (Members.names members).Nodup)
      (hvalues : ∀ member ∈ members, Distinct member.2) : Distinct (.object members)

theorem Distinct.names {members : Members} (h : Distinct (.object members)) :
    (Members.names members).Nodup := by
  cases h with
  | object hnames _ => exact hnames

theorem Distinct.value {members : Members} (h : Distinct (.object members))
    {member : String × Value} (hmem : member ∈ members) : member.2.Distinct := by
  cases h with
  | object _ hvalues => exact hvalues member hmem

end Value

/-- A member that is put has the value that is put, or it was there before. -/
theorem Members.mem_put {members : Members} {name : String} {value : Value}
    {member : String × Value} (h : member ∈ put name value members) :
    member.2 = value ∨ member ∈ members := by
  induction members with
  | nil => exact .inl (congrArg Prod.snd (List.mem_singleton.mp h))
  | cons head rest ih =>
    unfold put at h
    split at h
    · rcases List.mem_cons.mp h with rfl | hrest
      · exact .inl rfl
      · exact .inr (List.mem_cons_of_mem _ hrest)
    · rcases List.mem_cons.mp h with rfl | hrest
      · exact .inr List.mem_cons_self
      · exact (ih hrest).imp_right (List.mem_cons_of_mem _)

section

variable {readItem : Cursor → Except Fault (Value × Cursor)}
  (hitem : ∀ c item after, readItem c = .ok (item, after) → item.Distinct)

include hitem

theorem distinct_of_readItems {turns : Nat} {seen items : List Value} {c after : Cursor}
    (hseen : ∀ item ∈ seen, item.Distinct)
    (h : readItems readItem turns seen c = .ok (items, after)) :
    ∀ item ∈ items, item.Distinct := by
  induction turns generalizing seen c with
  | zero => cases h
  | succ turns ih =>
    unfold readItems at h
    obtain ⟨⟨more, c'⟩, -, hturn⟩ := exists_of_bind_eq_ok h
    cases more with
    | false =>
      cases hturn
      exact fun item hmem => hseen item (List.mem_reverse.mp hmem)
    | true =>
      obtain ⟨⟨item, c''⟩, hread, hrest⟩ := exists_of_bind_eq_ok hturn
      exact ih (List.forall_mem_cons.mpr ⟨hitem _ _ _ hread, hseen⟩) hrest

/-- Every member is put among those seen so far, whose names are distinct. -/
theorem distinct_of_readMembers {turns : Nat} {first : Bool} {seen members : Members}
    {c after : Cursor} (hnames : (Members.names seen).Nodup)
    (hseen : ∀ member ∈ seen, member.2.Distinct)
    (h : readMembers readItem turns first seen c = .ok (members, after)) :
    Value.Distinct (.object members) := by
  induction turns generalizing first seen c with
  | zero => cases h
  | succ turns ih =>
    unfold readMembers at h
    obtain ⟨⟨name?, c'⟩, -, hturn⟩ := exists_of_bind_eq_ok h
    cases name? with
    | none =>
      cases hturn
      exact .object hnames hseen
    | some name =>
      obtain ⟨c'', -, hcolon⟩ := exists_of_bind_eq_ok hturn
      obtain ⟨⟨item, c'''⟩, hread, hrest⟩ := exists_of_bind_eq_ok hcolon
      refine ih (Members.nodup_names_put hnames name item) (fun member hmem => ?_) hrest
      rcases Members.mem_put hmem with heq | hold
      · rw [heq]
        exact hitem _ _ _ hread
      · exact hseen member hold

end

namespace Value

/-- What is read holds no other values, or it is a container that has been read with less depth
left. -/
theorem read_cases {depth : Nat} {c after : Cursor} {value : Value}
    (h : read depth c = .ok (value, after)) :
    (∀ items, value ≠ .array items) ∧ (∀ members, value ≠ .object members) ∨
      ∃ less turns start, depth = less + 1 ∧
        ((∃ items, value = .array items ∧
            readItems (read less) turns [] start = .ok (items, after)) ∨
          ∃ members, value = .object members ∧
            readMembers (read less) turns true [] start = .ok (members, after)) := by
  unfold read at h
  dsimp only at h
  split at h
  case h_1 => cases h
  case h_6 =>
    split at h
    · cases h
    · rename_i less
      obtain ⟨⟨items, c'⟩, hitems, hvalue⟩ := exists_of_bind_eq_ok h
      cases hvalue
      exact .inr ⟨less, _, _, rfl, .inl ⟨items, rfl, hitems⟩⟩
  case h_7 =>
    split at h
    · cases h
    · rename_i less
      obtain ⟨⟨members, c'⟩, hmembers, hvalue⟩ := exists_of_bind_eq_ok h
      cases hvalue
      exact .inr ⟨less, _, _, rfl, .inr ⟨members, rfl, hmembers⟩⟩
  case h_8 =>
    split at h
    · obtain ⟨_, -, hvalue⟩ := exists_of_bind_eq_ok h
      cases hvalue
      exact .inl ⟨nofun, nofun⟩
    · split at h
      · obtain ⟨_, -, hvalue⟩ := exists_of_bind_eq_ok h
        cases hvalue
        exact .inl ⟨nofun, nofun⟩
      · cases h
  all_goals
    obtain ⟨_, -, hvalue⟩ := exists_of_bind_eq_ok h
    cases hvalue
    exact .inl ⟨nofun, nofun⟩

theorem distinct_of_flat {value : Value} (harray : ∀ items, value ≠ .array items)
    (hobject : ∀ members, value ≠ .object members) : value.Distinct := by
  cases value with
  | null => exact .null
  | boolean b => exact .boolean b
  | number n => exact .number n
  | text s => exact .text s
  | array items => exact absurd rfl (harray items)
  | object members => exact absurd rfl (hobject members)

/-- The induction is on the depth that is left for the containers inside. -/
theorem distinct_of_read {depth : Nat} {c after : Cursor} {value : Value}
    (h : read depth c = .ok (value, after)) : value.Distinct := by
  induction depth using Nat.strongRecOn generalizing c value after with
  | ind depth ih =>
    rcases read_cases h with ⟨harray, hobject⟩ | ⟨less, turns, start, rfl, hcontainer⟩
    · exact distinct_of_flat harray hobject
    · have hless : ∀ c item after, read less c = .ok (item, after) → item.Distinct :=
        fun _ _ _ => ih less (Nat.lt_succ_self less)
      rcases hcontainer with ⟨items, rfl, hitems⟩ | ⟨members, rfl, hmembers⟩
      · exact .array (distinct_of_readItems hless (List.forall_mem_nil _) hitems)
      · have hnone : (Members.names []).Nodup := List.nodup_nil
        exact distinct_of_readMembers hless hnone (List.forall_mem_nil _) hmembers

/-- **A document that has been read has distinct names.** -/
theorem distinct_of_parse {text : String} {value : Value} (h : parse text = .ok value) :
    value.Distinct := by
  obtain ⟨⟨parsed, after⟩, hread, hfinish⟩ := exists_of_bind_eq_ok h
  unfold finish at hfinish
  dsimp only at hfinish
  split at hfinish
  · cases hfinish
    exact distinct_of_read hread
  · cases hfinish

end Value

end ResultsBoard.Json
