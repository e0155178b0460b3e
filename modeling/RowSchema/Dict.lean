/-!
# Dictionaries in key order

A dictionary is a list of entries whose keys are texts in strictly increasing order of their code
points. It has one representation for each finite map, so equality of dictionaries is equality of
maps.

## Main definitions

* `Dict.get?`, `Dict.insert`, `Dict.ofEntries` — look up, replace or add, and build
* `Dict.Ordered` — the order of the keys, which every operation keeps

## Main results

* `Dict.get?_insert` — what a look-up finds after an insertion
* `Dict.ordered_insert`, `Dict.ordered_ofEntries` — the operations keep the order
-/

namespace RowSchema

/-- Entries under text keys. -/
abbrev Dict (α : Type) := List (String × α)

namespace Dict

variable {α : Type}

/-- The value of the first entry under `key`. -/
def get? (d : Dict α) (key : String) : Option α :=
  match d with
  | [] => none
  | (k, v) :: rest => if k = key then some v else get? rest key

/-- Puts `value` under `key` at the key's place in the order, instead of any value there. -/
def insert (d : Dict α) (key : String) (value : α) : Dict α :=
  match d with
  | [] => [(key, value)]
  | (k, v) :: rest =>
    if key < k then (key, value) :: (k, v) :: rest
    else if key = k then (key, value) :: rest
    else (k, v) :: insert rest key value

/-- The dictionary of all entries of a list. Of several under one key the last one stays. -/
def ofEntries (entries : List (String × α)) : Dict α :=
  entries.foldl (fun d entry => insert d entry.1 entry.2) []

/-- The keys increase strictly. -/
def Ordered (d : Dict α) : Prop :=
  d.Pairwise fun a b => a.1 < b.1

instance (d : Dict α) : Decidable (Ordered d) :=
  inferInstanceAs (Decidable (d.Pairwise fun a b => a.1 < b.1))

@[simp]
theorem get?_nil (key : String) : get? ([] : Dict α) key = none := rfl

theorem get?_insert (d : Dict α) (key key' : String) (value : α) :
    get? (insert d key value) key' = if key = key' then some value else get? d key' := by
  induction d with
  | nil => simp [insert, get?]
  | cons entry rest ih =>
    obtain ⟨k, v⟩ := entry
    rw [insert]
    split
    · simp [get?]
    · split
      · rename_i h
        subst h
        by_cases hk : key = key' <;> simp [get?, hk]
      · rename_i hne
        by_cases hk : k = key'
        · subst hk
          simp [get?, hne]
        · simp [get?, hk, ih]

theorem mem_keys_insert {d : Dict α} {key k : String} {value : α}
    (h : k ∈ (insert d key value).map Prod.fst) : k = key ∨ k ∈ d.map Prod.fst := by
  induction d with
  | nil => simpa [insert] using h
  | cons entry rest ih =>
    obtain ⟨k', v'⟩ := entry
    rw [insert] at h
    split at h
    · simpa using h
    · split at h
      · rename_i heq
        subst heq
        simp only [List.map_cons, List.mem_cons] at h ⊢
        exact h.imp_right Or.inr
      · simp only [List.map_cons, List.mem_cons] at h ⊢
        rcases h with h | h
        · exact Or.inr (Or.inl h)
        · exact (ih h).imp_right Or.inr

theorem ordered_nil : Ordered ([] : Dict α) := List.Pairwise.nil

theorem ordered_insert {d : Dict α} (h : Ordered d) (key : String) (value : α) :
    Ordered (insert d key value) := by
  induction d with
  | nil => simp [insert, Ordered]
  | cons entry rest ih =>
    obtain ⟨k, v⟩ := entry
    obtain ⟨hk, hrest⟩ := List.pairwise_cons.1 h
    rw [insert]
    split
    · rename_i hlt
      refine List.pairwise_cons.2 ⟨fun e he => ?_, h⟩
      rcases List.mem_cons.1 he with rfl | he
      · exact hlt
      · exact String.lt_trans hlt (hk e he)
    · split
      · rename_i heq
        subst heq
        exact List.pairwise_cons.2 ⟨hk, hrest⟩
      · rename_i hnlt hne
        refine List.pairwise_cons.2 ⟨fun e he => ?_, ih hrest⟩
        have hmem : e.1 ∈ (insert rest key value).map Prod.fst := List.mem_map_of_mem he
        rcases mem_keys_insert hmem with heq | hin
        · rw [heq]
          exact Std.lt_of_le_of_ne (String.not_lt.1 hnlt) (fun e => hne e.symm)
        · obtain ⟨e', he', heq⟩ := List.mem_map.1 hin
          rw [← heq]
          exact hk e' he'

theorem ordered_ofEntries (entries : List (String × α)) : Ordered (ofEntries entries) := by
  suffices ∀ d : Dict α, Ordered d →
      Ordered (entries.foldl (fun d entry => insert d entry.1 entry.2) d) from
    this [] ordered_nil
  induction entries with
  | nil => exact fun _ h => h
  | cons entry rest ih => exact fun d h => ih _ (ordered_insert h entry.1 entry.2)

end Dict

end RowSchema
