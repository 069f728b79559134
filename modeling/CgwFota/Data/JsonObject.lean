import CgwFota.Data.Json

/-!
# What an object holds

Lookups in an object after it was built, changed or had a member erased, whatever the order of its
keys. Each of these operations leaves a value that a parser could have returned.

## Main results

* `member?_ofMembers`, `atKey_ofMembers`, `value_ofMembers`: an object written as a list of members
  gives each of them back, the first where a key is listed twice
* `canonical_ofMembers`, `canonical_set`, `canonical_erase`: the operations stay within the
  canonical values
* `member?_set`, `member?_erase`: other members are left alone
* `atKey_ok`, `value_ok`: where a value that was read came from

## Proof strategy

Keys are sorted, so a key that comes before the first one is absent (`SortedKeys.lookup_less`);
every induction on the members splits on where the key stands relative to the first of them.
-/
namespace Json

/-! ### Order of keys -/

theorem keyBefore_irrefl (a : String) : ¬keyBefore a a := by
  have chars (cs : List Char) : ¬keyBefore.go cs cs := by
    induction cs with
    | nil => simp [keyBefore.go]
    | cons c cs ih => simpa [keyBefore.go] using ih
  exact chars a.toList

/-- The order of keys is transitive. -/
theorem keyBefore_trans {a b c : String} (first : keyBefore a b) (second : keyBefore b c) :
    keyBefore a c := by
  have chars (as bs cs : List Char) (first : keyBefore.go as bs) (second : keyBefore.go bs cs) :
      keyBefore.go as cs := by
    induction as generalizing bs cs with
    | nil =>
      cases cs with
      | nil => cases bs <;> simp [keyBefore.go] at first second
      | cons c cs => rfl
    | cons a as ih =>
      cases bs with
      | nil => simp [keyBefore.go] at first
      | cons b bs =>
        cases cs with
        | nil => simp [keyBefore.go] at second
        | cons c cs =>
          -- characters decide by their codes; equal ones leave it to the rest
          simp only [keyBefore.go, Bool.or_eq_true, Bool.and_eq_true, decide_eq_true_eq] at *
          rcases first with less | ⟨same, first⟩
          · rcases second with less' | ⟨same', second⟩
            · exact Or.inl (by omega)
            · exact Or.inl (by omega)
          · rcases second with less' | ⟨same', second⟩
            · exact Or.inl (by omega)
            · exact Or.inr ⟨by omega, ih bs cs first second⟩
  exact chars a.toList b.toList c.toList first second

/-- Two keys neither of which comes first are one key. -/
theorem keyBefore_total {a b : String} (left : ¬keyBefore a b) (other : a ≠ b) :
    keyBefore b a := by
  have chars (as bs : List Char) (left : ¬keyBefore.go as bs) (other : as ≠ bs) :
      keyBefore.go bs as := by
    induction as generalizing bs with
    | nil =>
      cases bs with
      | nil => exact absurd rfl other
      | cons b bs => simp [keyBefore.go] at left
    | cons a as ih =>
      cases bs with
      | nil => rfl
      | cons b bs =>
        simp only [keyBefore.go, Bool.or_eq_true, Bool.and_eq_true, decide_eq_true_eq, not_or,
          not_and] at left ⊢
        by_cases same : a = b
        · subst same
          exact Or.inr ⟨rfl, ih bs (left.2 rfl) fun h => other (by rw [h])⟩
        -- the first characters differ, so their codes do
        · have apart : a.toNat ≠ b.toNat := fun h => same (Char.toNat_inj.mp h)
          exact Or.inl (by omega)
  exact chars a.toList b.toList left fun h => other (String.toList_inj.mp h)

section Members

variable {α : Type} {members : List (String × α)}

theorem lookup_first (k k' : String) (b : α) (rest : List (String × α)) :
    ((k', b) :: rest).lookup k = if k = k' then some b else rest.lookup k := by
  rw [List.lookup_cons]
  by_cases same : k = k'
  · simp [same]
  · rw [beq_false_of_ne same]
    simp [same]

/-- A key before all keys of a sorted object is none of them. -/
theorem lookup_before {key : String} (first : ∀ k ∈ members.map Prod.fst, keyBefore key k) :
    members.lookup key = none := by
  rw [List.lookup_eq_none_iff]
  intro m member
  have less := first m.1 (List.mem_map_of_mem member)
  have apart : key ≠ m.1 := by
    rintro rfl
    exact keyBefore_irrefl _ less
  simpa using apart

theorem SortedKeys.nil : SortedKeys ([] : List (String × α)) := List.Pairwise.nil

theorem SortedKeys.tail {m : String × α} (sorted : SortedKeys (m :: members)) :
    SortedKeys members :=
  (List.pairwise_cons.mp sorted).2

theorem SortedKeys.before {m : String × α} (sorted : SortedKeys (m :: members)) :
    ∀ k ∈ members.map Prod.fst, keyBefore m.1 k :=
  (List.pairwise_cons.mp sorted).1

/-- A key that comes before the first key is not there. -/
theorem SortedKeys.lookup_less {m : String × α} {key : String}
    (sorted : SortedKeys (m :: members)) (less : keyBefore key m.1) :
    (m :: members).lookup key = none := by
  apply lookup_before
  intro k member
  rcases List.mem_cons.mp member with rfl | member
  · exact less
  · exact keyBefore_trans less (sorted.before k member)

/-! ### Adding a member -/

/-- A member is added only where its key was absent. -/
theorem lookup_emplace (sorted : SortedKeys members) (key : String) (a : α) (k : String) :
    (emplace key a members).lookup k =
      (members.lookup k).or (if k = key then some a else none) := by
  induction members with
  | nil => simp only [emplace, lookup_first, List.lookup_nil, Option.none_or]
  | cons m rest ih =>
    obtain ⟨k', b⟩ := m
    unfold emplace
    by_cases less : keyBefore key k'
    -- the key comes before all others, so it was absent
    · rw [if_pos less, lookup_first]
      by_cases here : k = key
      · have absent := sorted.lookup_less less
        simp [here, absent]
      · simp [here]
    rw [if_neg less]
    -- the key is there already, and its value stays
    by_cases same : key = k'
    · rw [if_pos same]
      by_cases here : k = key
      · simp [here, same]
      · simp [here]
    · rw [if_neg same]
      simp only [lookup_first, ih sorted.tail]
      split
      · simp
      · rfl

/-- An assignment is seen under its own key and nowhere else. -/
theorem lookup_assign (sorted : SortedKeys members) (key : String) (a : α) (k : String) :
    (assign key a members).lookup k = if k = key then some a else members.lookup k := by
  induction members with
  | nil => simp only [assign, lookup_first, List.lookup_nil]
  | cons m rest ih =>
    obtain ⟨k', b⟩ := m
    unfold assign
    by_cases less : keyBefore key k'
    · rw [if_pos less, lookup_first]
    rw [if_neg less]
    by_cases same : key = k'
    · subst same
      rw [if_pos rfl]
      simp only [lookup_first]
      split
      · rfl
      · rfl
    · rw [if_neg same]
      simp only [lookup_first, ih sorted.tail]
      by_cases here : k = k'
      · simp [here, Ne.symm same]
      · simp [here]

/-- What is in the object after `emplace` was there before or is the new member. -/
theorem mem_emplace {key : String} {a : α} {m : String × α} (member : m ∈ emplace key a members) :
    m = (key, a) ∨ m ∈ members := by
  induction members with
  | nil => simpa [emplace] using member
  | cons m' rest ih =>
    unfold emplace at member
    split at member
    · simpa using member
    · split at member
      · exact Or.inr member
      · rcases List.mem_cons.mp member with rfl | member
        · exact Or.inr (by simp)
        · exact (ih member).imp id (List.mem_cons_of_mem _)

theorem mem_keys_emplace {key k : String} {a : α}
    (member : k ∈ (emplace key a members).map Prod.fst) :
    k = key ∨ k ∈ members.map Prod.fst := by
  obtain ⟨m, found, rfl⟩ := List.mem_map.mp member
  rcases mem_emplace found with rfl | found
  · exact Or.inl rfl
  · exact Or.inr (List.mem_map_of_mem found)

/-- What is in the object after an assignment was there before or was assigned. -/
theorem mem_assign {key : String} {a : α} {m : String × α} (member : m ∈ assign key a members) :
    m = (key, a) ∨ m ∈ members := by
  induction members with
  | nil => simpa [assign] using member
  | cons m' rest ih =>
    unfold assign at member
    split at member
    · simpa using member
    · split at member
      · rcases List.mem_cons.mp member with rfl | member
        · exact Or.inl rfl
        · exact Or.inr (List.mem_cons_of_mem _ member)
      · rcases List.mem_cons.mp member with rfl | member
        · exact Or.inr (by simp)
        · exact (ih member).imp id (List.mem_cons_of_mem _)

theorem mem_keys_assign {key k : String} {a : α}
    (member : k ∈ (assign key a members).map Prod.fst) :
    k = key ∨ k ∈ members.map Prod.fst := by
  obtain ⟨m, found, rfl⟩ := List.mem_map.mp member
  rcases mem_assign found with rfl | found
  · exact Or.inl rfl
  · exact Or.inr (List.mem_map_of_mem found)

/-- Adding a member keeps the keys sorted. -/
theorem SortedKeys.emplace (sorted : SortedKeys members) (key : String) (a : α) :
    SortedKeys (emplace key a members) := by
  induction members with
  | nil => simp [Json.emplace, SortedKeys]
  | cons m rest ih =>
    unfold Json.emplace
    by_cases less : keyBefore key m.1
    · rw [if_pos less]
      refine List.pairwise_cons.mpr ⟨fun k member => ?_, sorted⟩
      rcases List.mem_cons.mp member with rfl | member
      · exact less
      · exact keyBefore_trans less (sorted.before k member)
    rw [if_neg less]
    by_cases same : key = m.1
    · rw [if_pos same]
      exact sorted
    -- the member goes behind the first one, whose key stays the least
    · rw [if_neg same]
      refine List.pairwise_cons.mpr ⟨fun k member => ?_, ih sorted.tail⟩
      rcases mem_keys_emplace member with rfl | member
      · exact keyBefore_total less same
      · exact sorted.before k member

/-- Assigning a member keeps the keys sorted. -/
theorem SortedKeys.assign (sorted : SortedKeys members) (key : String) (a : α) :
    SortedKeys (assign key a members) := by
  induction members with
  | nil => simp [Json.assign, SortedKeys]
  | cons m rest ih =>
    unfold Json.assign
    by_cases less : keyBefore key m.1
    · rw [if_pos less]
      refine List.pairwise_cons.mpr ⟨fun k member => ?_, sorted⟩
      rcases List.mem_cons.mp member with rfl | member
      · exact less
      · exact keyBefore_trans less (sorted.before k member)
    rw [if_neg less]
    by_cases same : key = m.1
    · rw [if_pos same, same]
      exact sorted
    · rw [if_neg same]
      refine List.pairwise_cons.mpr ⟨fun k member => ?_, ih sorted.tail⟩
      rcases mem_keys_assign member with rfl | member
      · exact keyBefore_total less same
      · exact sorted.before k member

theorem SortedKeys.filter (sorted : SortedKeys members) (p : String × α → Bool) :
    SortedKeys (members.filter p) :=
  List.Pairwise.sublist (List.filter_sublist.map Prod.fst) sorted

/-- An erased key is gone, the others are left alone. -/
theorem lookup_erased (members : List (String × α)) (key k : String) :
    (members.filter (·.1 ≠ key)).lookup k = if k = key then none else members.lookup k := by
  induction members with
  | nil => simp
  | cons m rest ih =>
    obtain ⟨k', b⟩ := m
    by_cases gone : k' = key
    · simp only [gone, ne_eq, not_true_eq_false, decide_false, Bool.false_eq_true,
        not_false_eq_true, List.filter_cons_of_neg, ih, lookup_first]
      split
      · rfl
      · rfl
    · simp only [ne_eq, gone, not_false_eq_true, decide_true, List.filter_cons_of_pos,
        lookup_first, ih]
      by_cases here : k = k'
      · simp [here, gone]
      · simp [here]

/-! ### Objects from a list of members -/

/-- An object built member by member has sorted keys, and the first member of a key counts. -/
theorem foldl_emplace (ms : List (String × α)) (sorted : SortedKeys members) :
    let built := ms.foldl (fun ms m => emplace m.1 m.2 ms) members
    SortedKeys built ∧ ∀ k, built.lookup k = (members.lookup k).or (ms.lookup k) := by
  induction ms generalizing members with
  | nil => exact ⟨sorted, by simp⟩
  | cons m ms ih =>
    obtain ⟨key, a⟩ := m
    obtain ⟨sorted', lookup⟩ := ih (sorted.emplace key a)
    refine ⟨sorted', fun k => (lookup k).trans ?_⟩
    -- what was there before the list counts before it
    rw [lookup_emplace sorted, lookup_first, Option.or_assoc]
    split
    · simp
    · simp

theorem mem_foldl_emplace {ms : List (String × α)} {m : String × α}
    (member : m ∈ ms.foldl (fun ms m => emplace m.1 m.2 ms) members) : m ∈ members ∨ m ∈ ms := by
  induction ms generalizing members with
  | nil => exact Or.inl member
  | cons m' ms ih =>
    rcases ih member with member | member
    · rcases mem_emplace member with rfl | member
      · exact Or.inr (by simp)
      · exact Or.inl member
    · exact Or.inr (List.mem_cons_of_mem _ member)

end Members

/-! ### Members of values -/

section Values

variable {j j' : Json} {key k : String} {v : Json}

@[simp] theorem member?_ofMembers (ms : List (String × Json)) :
    (ofMembers ms).member? k = ms.lookup k := by
  have built := (foldl_emplace ms SortedKeys.nil).2 k
  simpa [ofMembers, member?] using built

/-- Where the list has the key, the value is returned; elsewhere the library throws. -/
theorem atKey_ofMembers (ms : List (String × Json)) :
    (ofMembers ms).atKey k = match ms.lookup k with
      | some v => .ok v
      | none => .error ⟨"[json.exception.out_of_range.403] key '" ++ k ++ "' not found"⟩ := by
  have built := (foldl_emplace ms SortedKeys.nil).2 k
  simp only [List.lookup_nil, Option.none_or] at built
  cases found : ms.lookup k with
  | none => simp only [ofMembers, atKey, built, found]
  | some v => simp only [ofMembers, atKey, built, found]

/-- Where the list has the key, the value is converted; elsewhere the default is returned. -/
theorem value_ofMembers {α : Type} (get : Json → Except JsonException α) (default : α)
    (ms : List (String × Json)) :
    (ofMembers ms).value get k default = match ms.lookup k with
      | some v => get v
      | none => .ok default := by
  have built := (foldl_emplace ms SortedKeys.nil).2 k
  simp only [List.lookup_nil, Option.none_or] at built
  cases found : ms.lookup k with
  | none => simp only [ofMembers, value, built, found]
  | some v => simp only [ofMembers, value, built, found]

theorem canonical_ofMembers {ms : List (String × Json)} (each : ∀ m ∈ ms, m.2.Canonical) :
    (ofMembers ms).Canonical := by
  apply Canonical.object (foldl_emplace ms SortedKeys.nil).1
  intro m member
  rcases mem_foldl_emplace member with member | member
  · cases member
  · exact each m member

theorem atKey_ok (found : j.atKey k = .ok v) : j.member? k = some v := by
  cases j with
  | object members =>
    simp only [atKey] at found
    split at found
    next stored => cases found; exact stored
    next => cases found
  | _ => cases found

/-- A value that is read with a default comes from the member or is the default. -/
theorem value_ok {α : Type} {get : Json → Except JsonException α} {default a : α}
    (found : j.value get k default = .ok a) :
    (∃ v, j.member? k = some v ∧ get v = .ok a) ∨ j.member? k = none ∧ a = default := by
  cases j with
  | object members =>
    simp only [value] at found
    split at found
    next v stored => exact Or.inl ⟨v, stored, found⟩
    next absent => cases found; exact Or.inr ⟨absent, rfl⟩
  | _ => cases found

/-! ### Changing a member -/

/-- Setting a member to a canonical value gives a canonical value. -/
theorem canonical_set (canonical : j.Canonical) (value : v.Canonical)
    (done : j.set key v = .ok j') : j'.Canonical := by
  cases canonical with
  -- null turns into an object with this member alone
  | null =>
    cases done
    exact .object (SortedKeys.assign SortedKeys.nil key v) (by simpa [assign] using value)
  | @object members sorted each =>
    cases done
    apply Canonical.object (sorted.assign key v)
    intro m member
    rcases mem_assign member with rfl | member
    · exact value
    · exact each m member
  | _ => cases done

/-- A member that was set is found under its own key and nowhere else. -/
theorem member?_set (canonical : j.Canonical) (done : j.set key v = .ok j') :
    j'.member? k = if k = key then some v else j.member? k := by
  cases canonical with
  | null =>
    cases done
    simp only [member?, assign, lookup_first, List.lookup_nil]
  | object sorted each =>
    cases done
    exact lookup_assign sorted key v k
  | _ => cases done

theorem canonical_erase (canonical : j.Canonical) (done : j.erase key = .ok j') :
    j'.Canonical := by
  cases canonical with
  | object sorted each =>
    cases done
    exact .object (sorted.filter _) fun m member => each m (List.mem_filter.mp member).1
  | _ => cases done

theorem member?_erase (done : j.erase key = .ok j') :
    j'.member? k = if k = key then none else j.member? k := by
  cases j with
  | object members =>
    cases done
    exact lookup_erased members key k
  | _ => cases done

theorem canonical_member? (canonical : j.Canonical) (found : j.member? k = some v) :
    v.Canonical := by
  cases canonical with
  | @object members sorted each =>
    obtain ⟨before, after, split, _⟩ := List.lookup_eq_some_iff.mp found
    exact each (k, v) (by simp [split])
  | _ => cases found

end Values

end Json
