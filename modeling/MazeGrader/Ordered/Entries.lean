/-! Finite maps as entries in ascending order of key. Two of them with the same
entry under every key are equal, so a structure that keeps `Ascending` beside its
entries has the equality of the map it stands for. -/
namespace MazeGrader.Entries

variable {κ : Type u} {α : Type v}

/-- The last of some pairs that have this key has this value. -/
def LastWith (key : κ) (value : α) (pairs : List (κ × α)) : Prop :=
  ∃ front back, pairs = front ++ (key, value) :: back ∧ ∀ pair ∈ back, pair.1 ≠ key

theorem lastWith_cons {key : κ} {value : α} {pair : κ × α} {rest : List (κ × α)} :
    LastWith key value (pair :: rest) ↔
      LastWith key value rest ∨ pair = (key, value) ∧ ∀ other ∈ rest, other.1 ≠ key := by
  constructor
  · rintro ⟨front, back, split, last⟩
    cases front with
    | nil =>
      cases split
      exact .inr ⟨rfl, last⟩
    | cons first front =>
      cases split
      exact .inl ⟨front, back, rfl, last⟩
  · rintro (⟨front, back, rfl, last⟩ | ⟨rfl, last⟩)
    · exact ⟨pair :: front, back, rfl, last⟩
    · exact ⟨[], rest, rfl, last⟩

/-- A key that is there at all is there for the last time. -/
theorem exists_lastWith_iff {key : κ} {pairs : List (κ × α)} :
    (∃ value, LastWith key value pairs) ↔ ∃ pair ∈ pairs, pair.1 = key := by
  constructor
  · rintro ⟨value, front, back, rfl, -⟩
    exact ⟨(key, value), by simp, rfl⟩
  · intro present
    induction pairs with
    | nil => simp at present
    | cons pair rest ih =>
      simp only [lastWith_cons, exists_or]
      by_cases later : ∃ other ∈ rest, other.1 = key
      · exact .inl (ih later)
      · obtain ⟨other, member, rfl⟩ := present
        rcases List.mem_cons.1 member with rfl | member
        · exact .inr ⟨other.2, rfl, fun other member same => later ⟨other, member, same⟩⟩
        · exact absurd ⟨other, member, rfl⟩ later

theorem lastWith_map {f : κ → β} (injective : ∀ ⦃a b⦄, f a = f b → a = b) {key : κ} {value : α}
    {pairs : List (κ × α)} :
    LastWith (f key) value (pairs.map fun pair => (f pair.1, pair.2)) ↔
      LastWith key value pairs := by
  induction pairs with
  | nil => simp [LastWith]
  | cons pair rest ih =>
    have same : ∀ other : κ, f other = f key ↔ other = key := fun other =>
      ⟨fun equal => injective equal, congrArg f⟩
    simp only [List.map_cons, lastWith_cons, ih, Prod.ext_iff, List.forall_mem_map, ne_eq, same]

variable [LT κ]

def Ascending (entries : List (κ × α)) : Prop :=
  entries.Pairwise fun earlier later => earlier.1 < later.1

@[simp] theorem ascending_nil : Ascending ([] : List (κ × α)) := List.Pairwise.nil

variable [DecidableLT κ]

def find? (key : κ) : List (κ × α) → Option α
  | [] => none
  | (other, value) :: rest =>
    if key < other then none else if other < key then find? key rest else some value

/-- Puts `change` of the present value under `key`, in its place. -/
def update (key : κ) (change : Option α → α) : List (κ × α) → List (κ × α)
  | [] => [(key, change none)]
  | (other, value) :: rest =>
    if key < other then (key, change none) :: (other, value) :: rest
    else if other < key then (other, value) :: update key change rest
    else (key, change (some value)) :: rest

def insert (key : κ) (value : α) (entries : List (κ × α)) : List (κ × α) :=
  update key (fun _ => value) entries

/-- Of two pairs with one key the later wins. -/
def ofPairs (pairs : List (κ × α)) : List (κ × α) :=
  pairs.foldl (fun entries pair => insert pair.1 pair.2 entries) []

theorem find?_map (key : κ) (f : α → β) (entries : List (κ × α)) :
    find? key (entries.map fun entry => (entry.1, f entry.2)) = (find? key entries).map f := by
  induction entries with
  | nil => rfl
  | cons head rest ih =>
    simp only [List.map_cons, find?, ih]
    split
    · rfl
    · split <;> rfl

/-- Every key of an updated map is the new one or was there before. -/
theorem mem_update {key : κ} {change : Option α → α} {entries : List (κ × α)} {entry : κ × α}
    (h : entry ∈ update key change entries) : entry.1 = key ∨ entry ∈ entries := by
  induction entries with
  | nil => simp_all [update]
  | cons head rest ih =>
    unfold update at h
    split at h
    · rcases List.mem_cons.1 h with rfl | h
      · exact .inl rfl
      · exact .inr h
    · split at h
      · rcases List.mem_cons.1 h with rfl | h
        · exact .inr (by simp)
        · exact (ih h).imp id (List.mem_cons_of_mem _)
      · rcases List.mem_cons.1 h with rfl | h
        · exact .inl rfl
        · exact .inr (List.mem_cons_of_mem _ h)

/-- Nothing stands under a key below all others. -/
theorem find?_eq_none_of_lt {key : κ} {entries : List (κ × α)}
    (below : ∀ entry ∈ entries, key < entry.1) : find? key entries = none := by
  cases entries with
  | nil => rfl
  | cons head rest => simp [find?, below head (by simp)]

variable [LE κ] [Std.IsLinearOrder κ] [Std.LawfulOrderLT κ]

theorem update_ascending {key : κ} {change : Option α → α} {entries : List (κ × α)}
    (h : Ascending entries) : Ascending (update key change entries) := by
  induction entries with
  | nil => simp [Ascending, update]
  | cons head rest ih =>
    obtain ⟨first, tail⟩ := List.pairwise_cons.1 h
    unfold update
    split
    · next below =>
      refine List.pairwise_cons.2 ⟨fun entry member => ?_, h⟩
      rcases List.mem_cons.1 member with rfl | member
      · exact below
      · exact Std.lt_trans below (first _ member)
    · split
      · next above =>
        refine List.pairwise_cons.2 ⟨fun entry member => ?_, ih tail⟩
        rcases mem_update member with same | member
        · exact same ▸ above
        · exact first _ member
      · next notBelow notAbove =>
        have same : key = head.1 :=
          Std.le_antisymm (Std.not_lt.1 notAbove) (Std.not_lt.1 notBelow)
        exact List.pairwise_cons.2 ⟨fun entry member => same ▸ first _ member, tail⟩

/-- Only the entry under the updated key changes. -/
theorem find?_update [DecidableEq κ] {key other : κ} {change : Option α → α}
    {entries : List (κ × α)} (h : Ascending entries) :
    find? other (update key change entries) =
      if other = key then some (change (find? key entries)) else find? other entries := by
  induction entries with
  | nil =>
    by_cases same : other = key
    · simp [update, find?, same, Std.lt_irrefl]
    · rcases Std.lt_trichotomy other key with below | rfl | above
      · simp [update, find?, same, below]
      · exact absurd rfl same
      · simp [update, find?, same, above]
  | cons head rest ih =>
    obtain ⟨first, tail⟩ := List.pairwise_cons.1 h
    obtain ⟨present, value⟩ := head
    rcases Std.lt_trichotomy key present with below | rfl | above
    · by_cases same : other = key
      · simp [update, find?, below, same, Std.lt_irrefl]
      · rcases Std.lt_trichotomy other key with less | rfl | more
        · simp [update, find?, below, same, less, Std.lt_trans less below]
        · exact absurd rfl same
        · have notLess : ¬other < key := Std.not_lt.2 (Std.le_of_lt more)
          simp [update, below, same]
          simp [find?, more, notLess]
    · by_cases same : other = key
      · simp [update, find?, same, Std.lt_irrefl]
      · rcases Std.lt_trichotomy other key with less | rfl | more
        · simp [update, find?, same, less, Std.lt_irrefl]
        · exact absurd rfl same
        · simp [update, find?, same, more, Std.lt_irrefl]
    · have notBelow : ¬key < present := Std.not_lt.2 (Std.le_of_lt above)
      by_cases same : other = key
      · subst same
        simp [update, find?, above, notBelow, ih tail]
      · simp [update, find?, above, notBelow, ih tail, same]

/-- What is found is what is listed. -/
theorem find?_eq_some_iff {key : κ} {value : α} {entries : List (κ × α)} (h : Ascending entries) :
    find? key entries = some value ↔ (key, value) ∈ entries := by
  induction entries with
  | nil => simp [find?]
  | cons head rest ih =>
    obtain ⟨first, tail⟩ := List.pairwise_cons.1 h
    obtain ⟨other, present⟩ := head
    rcases Std.lt_trichotomy key other with below | rfl | above
    · have apart : key ≠ other := Std.ne_of_lt below
      have absent : (key, value) ∉ rest := fun member =>
        Std.lt_irrefl (Std.lt_trans below (first (key, value) member))
      simp [find?, below, apart, absent]
    · have absent : (key, value) ∉ rest := fun member => Std.lt_irrefl (first (key, value) member)
      simp [find?, Std.lt_irrefl, absent, eq_comm]
    · have apart : key ≠ other := (Std.ne_of_lt above).symm
      simp [find?, above, Std.not_lt.2 (Std.le_of_lt above), apart, ih tail]

/-- Entries are determined by what stands under each key. -/
theorem ascending_ext {left right : List (κ × α)} (leftAscends : Ascending left)
    (rightAscends : Ascending right) (same : ∀ key, find? key left = find? key right) :
    left = right := by
  induction left generalizing right with
  | nil =>
    cases right with
    | nil => rfl
    | cons head rest =>
      have found := same head.1
      simp [find?, Std.lt_irrefl] at found
  | cons head tail ih =>
    obtain ⟨key, value⟩ := head
    obtain ⟨leftFirst, leftTail⟩ := List.pairwise_cons.1 leftAscends
    cases right with
    | nil =>
      have found := same key
      simp [find?, Std.lt_irrefl] at found
    | cons other rest =>
      obtain ⟨otherKey, otherValue⟩ := other
      obtain ⟨rightFirst, rightTail⟩ := List.pairwise_cons.1 rightAscends
      have notBelow : ¬key < otherKey := by
        intro below
        have found := same key
        simp [find?, below, Std.lt_irrefl] at found
      have notAbove : ¬otherKey < key := by
        intro above
        have found := same otherKey
        simp [find?, above, Std.lt_irrefl] at found
      obtain rfl : key = otherKey :=
        Std.le_antisymm (Std.not_lt.1 notAbove) (Std.not_lt.1 notBelow)
      have values : value = otherValue := by simpa [find?, Std.lt_irrefl] using same key
      have tails : ∀ query, find? query tail = find? query rest := by
        intro query
        by_cases above : key < query
        · simpa [find?, above, Std.not_lt.2 (Std.le_of_lt above)] using same query
        · have notAfter := Std.not_lt.1 above
          rw [find?_eq_none_of_lt fun entry member =>
              Std.lt_of_le_of_lt notAfter (leftFirst entry member),
            find?_eq_none_of_lt fun entry member =>
              Std.lt_of_le_of_lt notAfter (rightFirst entry member)]
      rw [values, ih leftTail rightTail tails]

theorem ofPairs_ascending (pairs : List (κ × α)) : Ascending (ofPairs pairs) := by
  suffices ∀ entries : List (κ × α), Ascending entries →
      Ascending (pairs.foldl (fun entries pair => insert pair.1 pair.2 entries) entries) from
    this [] ascending_nil
  induction pairs with
  | nil => exact fun _ h => h
  | cons pair rest ih => exact fun _ h => ih _ (update_ascending h)

/-- Two maps that list the same entries are equal. -/
theorem ascending_ext_mem {left right : List (κ × α)} (leftAscends : Ascending left)
    (rightAscends : Ascending right) (same : ∀ entry, entry ∈ left ↔ entry ∈ right) :
    left = right := by
  refine ascending_ext leftAscends rightAscends fun key => Option.ext fun value => ?_
  rw [find?_eq_some_iff leftAscends, find?_eq_some_iff rightAscends, same]

omit [DecidableLT κ] in
/-- The last entry is the one with the greatest key. -/
theorem getLast?_eq_some_iff {entries : List (κ × α)} (h : Ascending entries) {entry : κ × α} :
    entries.getLast? = some entry ↔
      entry ∈ entries ∧ ∀ other ∈ entries, other.1 ≤ entry.1 := by
  rw [List.getLast?_eq_some_iff]
  constructor
  · rintro ⟨front, rfl⟩
    refine ⟨by simp, fun other member => ?_⟩
    rcases List.mem_append.1 member with before | here
    · exact Std.le_of_lt ((List.pairwise_append.1 h).2.2 other before entry (by simp))
    · rw [List.mem_singleton.1 here]
      exact Std.le_refl _
  · rintro ⟨member, greatest⟩
    obtain ⟨front, back, rfl⟩ := List.append_of_mem member
    cases back with
    | nil => exact ⟨front, rfl⟩
    | cons next back =>
      have above := (List.pairwise_cons.1 (List.pairwise_append.1 h).2.1).1 next (by simp)
      exact absurd above (Std.not_lt.2 (greatest next (by simp)))

omit [DecidableLT κ] in
/-- The first entry is the one with the least key. -/
theorem head?_eq_some_iff {entries : List (κ × α)} (h : Ascending entries) {entry : κ × α} :
    entries.head? = some entry ↔ entry ∈ entries ∧ ∀ other ∈ entries, entry.1 ≤ other.1 := by
  rw [List.head?_eq_some_iff]
  constructor
  · rintro ⟨back, rfl⟩
    refine ⟨by simp, fun other member => ?_⟩
    rcases List.mem_cons.1 member with rfl | behind
    · exact Std.le_refl _
    · exact Std.le_of_lt ((List.pairwise_cons.1 h).1 other behind)
  · rintro ⟨member, least⟩
    obtain ⟨front, back, rfl⟩ := List.append_of_mem member
    cases front with
    | nil => exact ⟨back, rfl⟩
    | cons first front =>
      have below := (List.pairwise_cons.1 h).1 entry (by simp)
      exact absurd below (Std.not_lt.2 (least first (by simp)))

/-- There is one entry under a key. -/
theorem eq_of_mem {entries : List (κ × α)} (h : Ascending entries) {entry other : κ × α}
    (member : entry ∈ entries) (also : other ∈ entries) (same : entry.1 = other.1) :
    entry = other := by
  have found := (find?_eq_some_iff h).2 member
  rw [same, (find?_eq_some_iff h).2 also] at found
  exact Prod.ext same (Option.some.inj found).symm

section Members

variable [DecidableEq κ]

theorem mem_insert {key : κ} {value : α} {entries : List (κ × α)} (h : Ascending entries)
    {entry : κ × α} : entry ∈ insert key value entries ↔
      entry = (key, value) ∨ entry.1 ≠ key ∧ entry ∈ entries := by
  obtain ⟨other, present⟩ := entry
  rw [insert, ← find?_eq_some_iff (update_ascending h), find?_update h]
  split
  · next same => simp [same, eq_comm]
  · next apart => simp [apart, find?_eq_some_iff h]

/-- Of several pairs with one key the last is kept. -/
theorem mem_ofPairs_iff {pairs : List (κ × α)} {key : κ} {value : α} :
    (key, value) ∈ ofPairs pairs ↔ LastWith key value pairs := by
  suffices ∀ entries : List (κ × α), Ascending entries →
      ((key, value) ∈ pairs.foldl (fun entries pair => insert pair.1 pair.2 entries) entries ↔
        LastWith key value pairs ∨
          (key, value) ∈ entries ∧ ∀ pair ∈ pairs, pair.1 ≠ key) by
    simpa [ofPairs] using this [] ascending_nil
  induction pairs with
  | nil => simp [LastWith]
  | cons pair rest ih =>
    intro entries ascends
    rw [List.foldl_cons, ih (insert pair.1 pair.2 entries) (update_ascending ascends),
      mem_insert ascends, lastWith_cons, List.forall_mem_cons, eq_comm, or_assoc]
    refine or_congr_right ?_
    constructor
    · rintro ⟨new | ⟨apart, old⟩, last⟩
      · exact .inl ⟨new, last⟩
      · exact .inr ⟨old, Ne.symm apart, last⟩
    · rintro (⟨new, last⟩ | ⟨old, apart, last⟩)
      · exact ⟨.inl new, last⟩
      · exact ⟨.inr ⟨Ne.symm apart, old⟩, last⟩

/-- Every entry is one of the pairs that the map was made of. -/
theorem mem_of_mem_ofPairs {pairs : List (κ × α)} {entry : κ × α} (h : entry ∈ ofPairs pairs) :
    entry ∈ pairs := by
  obtain ⟨front, back, rfl, -⟩ := mem_ofPairs_iff.1 h
  simp

/-- Pairs with different keys are all kept. -/
theorem mem_ofPairs {pairs : List (κ × α)}
    (apart : pairs.Pairwise fun earlier later => earlier.1 ≠ later.1) {entry : κ × α} :
    entry ∈ ofPairs pairs ↔ entry ∈ pairs := by
  refine ⟨mem_of_mem_ofPairs, fun member => ?_⟩
  obtain ⟨front, back, rfl⟩ := List.append_of_mem member
  have later := (List.pairwise_cons.1 (List.pairwise_append.1 apart).2.1).1
  exact mem_ofPairs_iff.2 ⟨front, back, rfl, fun pair behind => Ne.symm (later pair behind)⟩

/-- A map is made of its entries, in whatever order they come. -/
theorem ofPairs_eq {pairs entries : List (κ × α)}
    (apart : pairs.Pairwise fun earlier later => earlier.1 ≠ later.1)
    (ascends : Ascending entries) (same : ∀ entry, entry ∈ pairs ↔ entry ∈ entries) :
    ofPairs pairs = entries :=
  ascending_ext_mem (ofPairs_ascending pairs) ascends fun entry =>
    (mem_ofPairs apart).trans (same entry)

theorem ofPairs_of_ascending {entries : List (κ × α)} (h : Ascending entries) :
    ofPairs entries = entries :=
  ofPairs_eq (h.imp Std.ne_of_lt) h fun _ => Iff.rfl

end Members

end MazeGrader.Entries
