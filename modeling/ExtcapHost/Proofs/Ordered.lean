/-
Module: ExtcapHost.Proofs.Ordered
Purpose: The keys of association lists.
Main exports:
  Ordered.keys, Ordered.keys_put_of_new, Ordered.keys_erase, Ordered.get?_erase_self,
  Ordered.get?_of_mem, Ordered.flatMap_keys, Ordered.get?_append, Ordered.keys_ofPairs,
  Ordered.get?_ofPairs, Ordered.update, Ordered.ofPairs_append
-/
import ExtcapHost.Ordered
import Mathlib.Data.List.Basic
import Mathlib.Data.List.Induction

namespace ExtcapHost.Ordered

variable {κ ν : Type}

/-- The keys in order. -/
def keys (table : List (κ × ν)) : List κ :=
  table.map fun entry => entry.1

@[simp] theorem keys_nil : keys ([] : List (κ × ν)) = [] := rfl

@[simp] theorem keys_cons (entry : κ × ν) (rest : List (κ × ν)) :
    keys (entry :: rest) = entry.1 :: keys rest := rfl

theorem mem_keys {key : κ} {value : ν} {table : List (κ × ν)} (member : (key, value) ∈ table) :
    key ∈ keys table :=
  List.mem_map.mpr ⟨_, member, rfl⟩

variable [DecidableEq κ]

/-- A key without a value is absent. -/
theorem get?_eq_none_iff {key : κ} {table : List (κ × ν)} :
    get? key table = none ↔ key ∉ keys table := by
  induction table with
  | nil => simp [get?]
  | cons entry rest ih =>
      obtain ⟨k, v⟩ := entry
      by_cases same : k = key
      · simp [get?, same]
      · have other : key ≠ k := fun equal => same equal.symm
        simp [get?, same, ih, other]

/-- A new key goes to the end. -/
theorem put_of_new {key : κ} {table : List (κ × ν)} (fresh : key ∉ keys table) (value : ν) :
    put key value table = table ++ [(key, value)] := by
  induction table with
  | nil => rfl
  | cons entry rest ih =>
      obtain ⟨k, v⟩ := entry
      simp only [keys_cons, List.mem_cons, not_or] at fresh
      simp only [put, if_neg (Ne.symm fresh.1), ih fresh.2, List.cons_append]

theorem keys_put_of_new {key : κ} {table : List (κ × ν)} (fresh : key ∉ keys table)
    (value : ν) : keys (put key value table) = keys table ++ [key] := by
  rw [put_of_new fresh value]
  simp [keys]

/-- Erasing a key erases it among the keys. -/
theorem keys_erase (key : κ) (table : List (κ × ν)) :
    keys (erase key table) = (keys table).erase key := by
  induction table with
  | nil => rfl
  | cons entry rest ih =>
      obtain ⟨k, v⟩ := entry
      by_cases same : k = key
      · simp [erase, same]
      · simp [erase, same, ih]

/-- Erasing an absent key changes nothing. -/
theorem erase_of_absent {key : κ} {table : List (κ × ν)} (absent : key ∉ keys table) :
    erase key table = table := by
  induction table with
  | nil => rfl
  | cons entry rest ih =>
      obtain ⟨k, v⟩ := entry
      simp only [keys_cons, List.mem_cons, not_or] at absent
      simp only [erase, if_neg (Ne.symm absent.1), ih absent.2]

/-! ### What is found under a key -/

theorem mem_of_get? {key : κ} {value : ν} {table : List (κ × ν)}
    (found : get? key table = some value) : (key, value) ∈ table := by
  induction table with
  | nil => cases found
  | cons entry rest ih =>
      obtain ⟨k, v⟩ := entry
      by_cases same : k = key
      · rw [get?, if_pos same] at found
        cases found
        rw [same]
        exact .head _
      · rw [get?, if_neg same] at found
        exact .tail _ (ih found)

/-- Where no key comes twice, every value is found under its key. -/
theorem get?_of_mem {key : κ} {value : ν} {table : List (κ × ν)} (distinct : (keys table).Nodup)
    (member : (key, value) ∈ table) : get? key table = some value := by
  induction table with
  | nil => cases member
  | cons entry rest ih =>
      obtain ⟨k, v⟩ := entry
      rw [keys_cons, List.nodup_cons] at distinct
      rcases List.mem_cons.mp member with same | later
      · cases same
        rw [get?, if_pos rfl]
      · have other : k ≠ key := by
          rintro rfl
          exact distinct.1 (mem_keys later)
        rw [get?, if_neg other, ih distinct.2 later]

/-- To look up every key in turn is to go through the entries. -/
theorem flatMap_keys {μ : Type} {table : List (κ × ν)} (distinct : (keys table).Nodup)
    (words : κ → Option ν → List μ) :
    (keys table).flatMap (fun key => words key (get? key table)) =
      table.flatMap fun entry => words entry.1 (some entry.2) := by
  rw [keys, List.flatMap_map]
  refine List.flatMap_congr fun entry member => ?_
  rw [get?_of_mem distinct member]

/-- What is found in front is found first. -/
theorem get?_append (key : κ) (front back : List (κ × ν)) :
    get? key (front ++ back) = (get? key front).or (get? key back) := by
  induction front with
  | nil => rfl
  | cons entry rest ih =>
      obtain ⟨k, v⟩ := entry
      by_cases same : k = key
      · rw [List.cons_append, get?, get?, if_pos same, if_pos same, Option.some_or]
      · rw [List.cons_append, get?, get?, if_neg same, if_neg same, ih]

theorem mem_put {key : κ} {value : ν} {table : List (κ × ν)} {entry : κ × ν}
    (member : entry ∈ put key value table) : entry = (key, value) ∨ entry ∈ table := by
  induction table with
  | nil => exact .inl (List.mem_singleton.mp member)
  | cons first rest ih =>
      obtain ⟨k, v⟩ := first
      by_cases same : k = key
      · rw [put, if_pos same] at member
        exact (List.mem_cons.mp member).imp_right (List.mem_cons_of_mem _)
      · rw [put, if_neg same] at member
        rcases List.mem_cons.mp member with here | later
        · exact .inr (here ▸ .head _)
        · exact (ih later).imp_right (List.mem_cons_of_mem _)

/-- A key that is present keeps its place. -/
theorem keys_put_of_mem {key : κ} {table : List (κ × ν)} (present : key ∈ keys table)
    (value : ν) : keys (put key value table) = keys table := by
  induction table with
  | nil => cases present
  | cons entry rest ih =>
      obtain ⟨k, v⟩ := entry
      by_cases same : k = key
      · rw [put, if_pos same, keys_cons, keys_cons, same]
      · have later : key ∈ keys rest := (List.mem_cons.mp present).resolve_left (Ne.symm same)
        rw [put, if_neg same, keys_cons, keys_cons, ih later]

/-- The keys after writing are the keys before, and the one that was written. -/
theorem mem_keys_put {key other : κ} (value : ν) {table : List (κ × ν)} :
    other ∈ keys (put key value table) ↔ other ∈ keys table ∨ other = key := by
  by_cases present : key ∈ keys table
  · rw [keys_put_of_mem present]
    exact ⟨.inl, fun either => either.elim id fun same => same ▸ present⟩
  · rw [keys_put_of_new present, List.mem_append, List.mem_singleton]

theorem nodup_keys_put {table : List (κ × ν)} (distinct : (keys table).Nodup) (key : κ)
    (value : ν) : (keys (put key value table)).Nodup := by
  by_cases present : key ∈ keys table
  · rw [keys_put_of_mem present]
    exact distinct
  · rw [keys_put_of_new present]
    refine List.nodup_append.mpr ⟨distinct, by simp, ?_⟩
    rintro other older last lastIn rfl
    exact present (List.mem_singleton.mp lastIn ▸ older)

theorem erase_sublist (key : κ) (table : List (κ × ν)) : (erase key table).Sublist table := by
  induction table with
  | nil => exact .slnil
  | cons entry rest ih =>
      obtain ⟨k, v⟩ := entry
      rw [erase]
      split
      · exact List.sublist_cons_self _ _
      · exact ih.cons_cons _

/-- What stands under another key stays. -/
theorem mem_erase_of_ne {key : κ} {table : List (κ × ν)} {entry : κ × ν} (member : entry ∈ table)
    (different : entry.1 ≠ key) : entry ∈ erase key table := by
  induction table with
  | nil => cases member
  | cons first rest ih =>
      obtain ⟨k, v⟩ := first
      rw [erase]
      rcases List.mem_cons.mp member with here | later
      · rw [if_neg (by rw [here] at different; exact different), here]
        exact .head _
      · split
        · exact later
        · exact .tail _ (ih later)

theorem nodup_keys_erase {table : List (κ × ν)} (distinct : (keys table).Nodup) (key : κ) :
    (keys (erase key table)).Nodup := by
  rw [keys_erase]
  exact distinct.erase key

/-- Where no key comes twice, an erased key is absent. -/
theorem get?_erase_self {table : List (κ × ν)} (distinct : (keys table).Nodup) (key : κ) :
    get? key (erase key table) = none := by
  rw [get?_eq_none_iff, keys_erase]
  exact distinct.not_mem_erase

theorem get?_erase_other {key other : κ} (different : other ≠ key) (table : List (κ × ν)) :
    get? other (erase key table) = get? other table := by
  induction table with
  | nil => rfl
  | cons entry rest ih =>
      obtain ⟨k, v⟩ := entry
      by_cases same : k = key
      · rw [erase, if_pos same, get?, if_neg (by rw [same]; exact different.symm)]
      · rw [erase, if_neg same, get?, get?, ih]

/-- What is found in a table with its values changed is what was found, changed. -/
theorem get?_map {μ : Type} (key : κ) (change : ν → μ) (table : List (κ × ν)) :
    get? key (table.map fun entry => (entry.1, change entry.2)) =
      (get? key table).map change := by
  induction table with
  | nil => rfl
  | cons entry rest ih =>
      obtain ⟨k, v⟩ := entry
      rw [List.map_cons, get?, get?, ih]
      split <;> rfl

/-! ### Writing pairs one after the other -/

/-- Pairs with distinct keys are the table that they make. -/
theorem ofPairs_of_nodup {pairs : List (κ × ν)} (distinct : (keys pairs).Nodup) :
    ofPairs pairs = pairs := by
  -- What is written so far stands in front, so the induction is on what is still to come.
  have onto : ∀ {pairs table : List (κ × ν)}, (keys (table ++ pairs)).Nodup →
      pairs.foldl (fun table pair => put pair.1 pair.2 table) table = table ++ pairs := by
    intro pairs
    induction pairs with
    | nil => simp
    | cons pair rest ih =>
        intro table distinct
        have fresh : pair.1 ∉ keys table := by
          rw [keys, List.map_append, List.nodup_append] at distinct
          intro present
          exact distinct.2.2 _ present _ (.head _) rfl
        have next : table ++ [(pair.1, pair.2)] ++ rest = table ++ pair :: rest := by simp
        rw [List.foldl_cons, put_of_new fresh, ih (by rw [next]; exact distinct), next]
  exact onto distinct

theorem ofPairs_snoc (pairs : List (κ × ν)) (last : κ × ν) :
    ofPairs (pairs ++ [last]) = put last.1 last.2 (ofPairs pairs) := by
  rw [ofPairs, List.foldl_append]
  rfl

/-- Each key has the place where it was written first. -/
theorem keys_ofPairs (pairs : List (κ × ν)) : keys (ofPairs pairs) = (keys pairs).eraseDups := by
  induction pairs using List.reverseRecOn with
  | nil => rfl
  | append_singleton pairs last ih =>
      have split : keys (pairs ++ [last]) = keys pairs ++ [last.1] := List.map_append
      rw [ofPairs_snoc, split, List.eraseDups_append]
      by_cases present : last.1 ∈ keys pairs
      · have written : last.1 ∈ keys (ofPairs pairs) := by rwa [ih, List.mem_eraseDups]
        have nothing : [last.1].removeAll (keys pairs) = [] := by simp [List.removeAll, present]
        rw [keys_put_of_mem written, ih, nothing, List.eraseDups_nil, List.append_nil]
      · have fresh : last.1 ∉ keys (ofPairs pairs) := by rwa [ih, List.mem_eraseDups]
        have itself : [last.1].removeAll (keys pairs) = [last.1] := by
          simp [List.removeAll, present]
        rw [keys_put_of_new fresh, ih, itself, List.eraseDups_cons, List.filter_nil,
          List.eraseDups_nil]

theorem mem_keys_ofPairs {key : κ} {pairs : List (κ × ν)} :
    key ∈ keys (ofPairs pairs) ↔ key ∈ keys pairs := by
  rw [keys_ofPairs, List.mem_eraseDups]

/-- Each key has the value that was written last. -/
theorem get?_ofPairs (key : κ) (pairs : List (κ × ν)) :
    get? key (ofPairs pairs) = get? key pairs.reverse := by
  induction pairs using List.reverseRecOn with
  | nil => rfl
  | append_singleton pairs last ih =>
      obtain ⟨k, v⟩ := last
      rw [ofPairs_snoc, List.reverse_concat, get?]
      by_cases same : k = key
      · rw [if_pos same, same, get?_put_self]
      · rw [if_neg same, get?_put_other (Ne.symm same), ih]

theorem nodup_keys_ofPairs (pairs : List (κ × ν)) : (keys (ofPairs pairs)).Nodup := by
  have onto : ∀ {table : List (κ × ν)}, (keys table).Nodup →
      (keys (pairs.foldl (fun table pair => put pair.1 pair.2 table) table)).Nodup := by
    induction pairs with
    | nil => exact id
    | cons pair rest ih => exact fun distinct => ih (nodup_keys_put distinct pair.1 pair.2)
  exact onto .nil

/-- Nothing else is in the table than what was written. -/
theorem mem_ofPairs {pairs : List (κ × ν)} {entry : κ × ν} (member : entry ∈ ofPairs pairs) :
    entry ∈ pairs := by
  have onto : ∀ {table : List (κ × ν)},
      entry ∈ pairs.foldl (fun table pair => put pair.1 pair.2 table) table →
        entry ∈ table ∨ entry ∈ pairs := by
    clear member
    induction pairs with
    | nil => exact .inl
    | cons pair rest ih =>
        intro table member
        rcases ih member with written | later
        · rcases mem_put written with rfl | older
          · exact .inr (.head _)
          · exact .inl older
        · exact .inr (.tail _ later)
  exact (onto member).resolve_left nofun

/-! ### Writing one table into another -/

/-- A table into which the pairs of another one were written. -/
def update (table pairs : List (κ × ν)) : List (κ × ν) :=
  pairs.foldl (fun table pair => put pair.1 pair.2 table) table

theorem put_put_self (key : κ) (old new : ν) (table : List (κ × ν)) :
    put key new (put key old table) = put key new table := by
  induction table with
  | nil => simp [put]
  | cons entry rest ih =>
      obtain ⟨k, v⟩ := entry
      by_cases same : k = key
      · simp only [put, if_pos same, if_true]
      · simp only [put, if_neg same, ih]

/-- A key that is present keeps its place, so it may be written before another key or
after it. -/
theorem put_comm {key other : κ} (different : other ≠ key) {table : List (κ × ν)}
    (present : key ∈ keys table) (value another : ν) :
    put key value (put other another table) = put other another (put key value table) := by
  induction table with
  | nil => cases present
  | cons entry rest ih =>
      obtain ⟨k, v⟩ := entry
      by_cases same : k = key
      · have apart : k ≠ other := fun equal => different (equal.symm.trans same)
        simp only [put, if_pos same, if_neg apart, if_neg different.symm]
      · have later : key ∈ keys rest := by
          rcases List.mem_cons.mp present with first | later
          · exact absurd first.symm same
          · exact later
        by_cases first : k = other
        · simp only [put, if_pos first, if_neg same, if_neg different]
        · simp only [put, if_neg first, if_neg same, ih later]

/-- A key that was written first may as well be written last, if no other pair is of that
key. -/
theorem update_put_of_absent {key : κ} {pairs : List (κ × ν)} (absent : key ∉ keys pairs)
    {table : List (κ × ν)} (present : key ∈ keys table) (value : ν) :
    update (put key value table) pairs = put key value (update table pairs) := by
  induction pairs generalizing table with
  | nil => rfl
  | cons pair rest ih =>
      rw [keys_cons, List.mem_cons, not_or] at absent
      have written : key ∈ keys (put pair.1 pair.2 table) :=
        (mem_keys_put pair.2).mpr (.inl present)
      have moved := put_comm (Ne.symm absent.1) present value pair.2
      calc update (put key value table) (pair :: rest)
          = update (put pair.1 pair.2 (put key value table)) rest := rfl
        _ = update (put key value (put pair.1 pair.2 table)) rest := by rw [moved]
        _ = put key value (update (put pair.1 pair.2 table) rest) := ih absent.2 written

/-- To write a key into the pairs is to write it once they are written. -/
theorem update_put {pairs : List (κ × ν)} (distinct : (keys pairs).Nodup)
    (table : List (κ × ν)) (key : κ) (value : ν) :
    update table (put key value pairs) = put key value (update table pairs) := by
  induction pairs generalizing table with
  | nil => rfl
  | cons pair rest ih =>
      obtain ⟨k, v⟩ := pair
      rw [keys_cons, List.nodup_cons] at distinct
      by_cases same : k = key
      · subst same
        have present : k ∈ keys (put k v table) := (mem_keys_put v).mpr (.inr rfl)
        have moved := update_put_of_absent distinct.1 present value
        rw [put_put_self] at moved
        simp only [put, if_true]
        exact moved
      · simp only [put, if_neg same]
        exact ih distinct.2 (put k v table)

/-- Of pairs that are written into a table, it is enough to write the table that they make
themselves. -/
theorem update_ofPairs (table pairs : List (κ × ν)) :
    update table (ofPairs pairs) = update table pairs := by
  induction pairs using List.reverseRecOn with
  | nil => rfl
  | append_singleton pairs last ih =>
      rw [ofPairs_snoc, update_put (nodup_keys_ofPairs pairs), ih, update, update,
        List.foldl_append]
      rfl

theorem ofPairs_append (first second : List (κ × ν)) :
    ofPairs (first ++ second) = update (ofPairs first) (ofPairs second) := by
  rw [update_ofPairs, ofPairs, List.foldl_append]
  rfl

end ExtcapHost.Ordered
