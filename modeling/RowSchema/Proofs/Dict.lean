import Mathlib.Data.List.Nodup
import Mathlib.Data.List.Perm.Basic
import RowSchema.Dict

/-!
# Dictionaries as finite maps

`Dict.get?` is the view through which dictionaries are seen: every operation is described by what
a look-up finds afterwards, and `ext_get?` turns equal look-ups back into equal lists.

## Main definitions

* `Dict.keys` — the keys in their order
* `Dict.pick` — a dictionary with some entries dropped and the other values changed
* `Dict.overwrite` — the entries of one dictionary written into another

## Main results

* `Dict.ext_get?` — ordered dictionaries with equal look-ups are equal
* `Dict.get?_pick`, `get?_filter`, `get?_overwrite`, `get?_ofEntries`
* `Dict.ofEntries_eq_of_perm` — the order in which a dictionary is filled does not matter
* `Dict.mem_of_get?_ofEntries` — where the entries of a dictionary come from

## Implementation notes

Look-ups need less than the order: that no key comes twice. The hypothesis is therefore
`d.keys.Nodup` wherever an equation of look-ups is all that is claimed, and lists of entries that
are not in key order, such as the output of a record parser, are covered too.
-/

namespace RowSchema.Dict

variable {α β : Type}

/-- The keys in their order. -/
abbrev keys (d : Dict α) : List String := d.map Prod.fst

theorem Ordered.nodup_keys {d : Dict α} (h : Ordered d) : d.keys.Nodup := by
  refine List.pairwise_map.mpr (h.imp ?_)
  intro a b hlt heq
  exact String.lt_irrefl a.1 (heq ▸ hlt)

/-! ### Look-ups and entries -/

theorem get?_eq_none_iff {d : Dict α} {key : String} : d.get? key = none ↔ key ∉ d.keys := by
  induction d with
  | nil => simp
  | cons entry rest ih =>
    obtain ⟨k, v⟩ := entry
    by_cases hk : k = key
    · simp [get?, hk]
    · simp [get?, hk, ih, Ne.symm hk]

theorem mem_of_get?_eq_some {d : Dict α} {key : String} {v : α} (h : d.get? key = some v) :
    (key, v) ∈ d := by
  induction d with
  | nil => simp at h
  | cons entry rest ih =>
    obtain ⟨k, w⟩ := entry
    by_cases hk : k = key
    · have hw : w = v := by simpa [get?, hk] using h
      rw [hk, hw]
      exact List.mem_cons_self ..
    · exact List.mem_cons_of_mem _ (ih (by simpa [get?, hk] using h))

theorem get?_eq_some_iff {d : Dict α} (hd : d.keys.Nodup) {key : String} {v : α} :
    d.get? key = some v ↔ (key, v) ∈ d := by
  refine ⟨mem_of_get?_eq_some, fun hmem => ?_⟩
  have hkey : key ∈ d.keys := List.mem_map_of_mem (f := Prod.fst) hmem
  obtain ⟨w, hw⟩ := Option.ne_none_iff_exists'.mp fun hnone => get?_eq_none_iff.mp hnone hkey
  have heq := List.inj_on_of_nodup_map hd (mem_of_get?_eq_some hw) hmem rfl
  rw [hw, (Prod.mk.inj heq).2]

/-- Entries under other keys may be added anywhere. -/
theorem get?_eq_of_sublist {d e : Dict α} {key : String} (hsub : d.Sublist e) (he : e.keys.Nodup)
    (hold : key ∈ e.keys → key ∈ d.keys) : e.get? key = d.get? key := by
  cases hget : d.get? key with
  | none => exact get?_eq_none_iff.mpr fun hmem => get?_eq_none_iff.mp hget (hold hmem)
  | some v => exact (get?_eq_some_iff he).mpr (hsub.subset (mem_of_get?_eq_some hget))

/-- **Extensionality.** A dictionary is determined by its look-ups. -/
theorem ext_get? {d e : Dict α} (hd : Ordered d) (he : Ordered e)
    (h : ∀ key, d.get? key = e.get? key) : d = e := by
  have hmem : ∀ entry, entry ∈ d ↔ entry ∈ e := by
    rintro ⟨key, v⟩
    rw [← get?_eq_some_iff hd.nodup_keys, ← get?_eq_some_iff he.nodup_keys, h]
  have hperm : d.Perm e :=
    (List.perm_ext_iff_of_nodup (hd.nodup_keys.of_map _) (he.nodup_keys.of_map _)).mpr hmem
  refine hperm.eq_of_pairwise ?_ hd he
  intro a b _ _ hab hba
  exact absurd (String.lt_trans hab hba) (String.lt_irrefl a.1)

/-! ### Dropping and changing entries -/

/-- The entries for whose keys and values `g` gives a value, each with that value. -/
def pick (g : String → α → Option β) (d : Dict α) : Dict β :=
  d.filterMap fun entry => (g entry.1 entry.2).map (Prod.mk entry.1)

theorem keys_pick_sublist (g : String → α → Option β) (d : Dict α) :
    (d.pick g).keys.Sublist d.keys := by
  induction d with
  | nil => exact List.Sublist.slnil
  | cons entry rest ih =>
    cases hg : g entry.1 entry.2 with
    | none => simpa [pick, hg] using ih.cons entry.1
    | some w => simpa [pick, hg] using ih.cons_cons entry.1

theorem ordered_pick {g : String → α → Option β} {d : Dict α} (h : Ordered d) :
    Ordered (d.pick g) := by
  have hkeys : d.keys.Pairwise (· < ·) := List.pairwise_map.mpr h
  exact List.pairwise_map.mp (hkeys.sublist (keys_pick_sublist g d))

theorem get?_pick {g : String → α → Option β} {d : Dict α} (hd : d.keys.Nodup) (key : String) :
    (d.pick g).get? key = (d.get? key).bind (g key) := by
  induction d with
  | nil => rfl
  | cons entry rest ih =>
    obtain ⟨k, v⟩ := entry
    obtain ⟨hk, hrest⟩ := List.nodup_cons.mp hd
    have ih := ih hrest
    by_cases hkey : k = key
    · subst hkey
      have hnone : get? rest k = none := get?_eq_none_iff.mpr hk
      rw [hnone] at ih
      cases hg : g k v with
      | none => simpa [pick, get?, hg] using ih
      | some w => simp [pick, get?, hg]
    · cases hg : g k v with
      | none => simpa [pick, get?, hg, hkey] using ih
      | some w => simpa [pick, get?, hg, hkey] using ih

/-- Keeping some entries is picking them unchanged. -/
theorem filter_eq_pick (q : String → α → Bool) (d : Dict α) :
    d.filter (fun entry => q entry.1 entry.2) =
      d.pick fun key v => if q key v then some v else none := by
  rw [pick, ← List.filterMap_eq_filter]
  congr 1
  funext entry
  by_cases hq : q entry.1 entry.2 <;> simp [Option.guard, hq]

theorem get?_filter {q : String → α → Bool} {d : Dict α} (hd : d.keys.Nodup) (key : String) :
    get? (d.filter fun entry => q entry.1 entry.2) key = (d.get? key).filter (q key) := by
  rw [filter_eq_pick, get?_pick hd]
  cases d.get? key with
  | none => rfl
  | some v => by_cases hq : q key v <;> simp [hq, Option.filter]

theorem ordered_filter {q : String → α → Bool} {d : Dict α} (h : Ordered d) :
    Ordered (d.filter fun entry => q entry.1 entry.2) :=
  h.filter _

/-! ### Writing entries into a dictionary -/

/-- `d` with the entries of `e` written into it. -/
def overwrite (d e : Dict α) : Dict α :=
  e.foldl (fun d entry => insert d entry.1 entry.2) d

theorem ordered_overwrite {d : Dict α} (h : Ordered d) (e : Dict α) : Ordered (d.overwrite e) := by
  induction e generalizing d with
  | nil => exact h
  | cons entry rest ih => exact ih (ordered_insert h entry.1 entry.2)

/-- **Read after write.** The written entries come first, the old ones behind them. -/
theorem get?_overwrite {d e : Dict α} (he : e.keys.Nodup) (key : String) :
    (d.overwrite e).get? key = (e.get? key).or (d.get? key) := by
  induction e generalizing d with
  | nil => rfl
  | cons entry rest ih =>
    obtain ⟨k, v⟩ := entry
    obtain ⟨hk, hrest⟩ := List.nodup_cons.mp he
    rw [show overwrite d ((k, v) :: rest) = (insert d k v).overwrite rest from rfl, ih hrest,
      get?_insert]
    by_cases hkey : k = key
    · subst hkey
      simp [get?, get?_eq_none_iff.mpr hk]
    · simp [get?, hkey]

theorem get?_ofEntries {entries : List (String × α)} (h : (keys entries).Nodup) (key : String) :
    (ofEntries entries).get? key = get? entries key := by
  rw [show ofEntries entries = overwrite [] entries from rfl, get?_overwrite h]
  simp

/-- Entries under different keys may be inserted in any order. -/
theorem ofEntries_eq_of_perm {entries entries' : List (String × α)} (h : entries.Perm entries')
    (hkeys : (keys entries).Nodup) : ofEntries entries = ofEntries entries' := by
  have hkeys' : (keys entries').Nodup := (h.map Prod.fst).nodup_iff.mp hkeys
  refine ext_get? (ordered_ofEntries entries) (ordered_ofEntries entries') fun key => ?_
  rw [get?_ofEntries hkeys, get?_ofEntries hkeys']
  ext v
  rw [get?_eq_some_iff hkeys, get?_eq_some_iff hkeys', h.mem_iff]

/-- A look-up only finds entries that the dictionary was built of. -/
theorem mem_of_get?_ofEntries {entries : List (String × α)} {key : String} {v : α}
    (h : (ofEntries entries).get? key = some v) : (key, v) ∈ entries := by
  suffices ∀ d : Dict α, (d.overwrite entries).get? key = some v →
      d.get? key = some v ∨ (key, v) ∈ entries from (this [] h).resolve_left nofun
  clear h
  induction entries with
  | nil => exact fun _ h => Or.inl h
  | cons entry rest ih =>
    intro d h
    rcases ih (insert d entry.1 entry.2) h with hold | hnew
    · rw [get?_insert] at hold
      split at hold
      · rename_i hkey
        exact Or.inr (hkey ▸ Option.some.inj hold ▸ List.mem_cons_self ..)
      · exact Or.inl hold
    · exact Or.inr (List.mem_cons_of_mem _ hnew)

theorem mem_of_mem_ofEntries {entries : List (String × α)} {entry : String × α}
    (h : entry ∈ ofEntries entries) : entry ∈ entries :=
  mem_of_get?_ofEntries ((get?_eq_some_iff (ordered_ofEntries entries).nodup_keys).2 h)

end RowSchema.Dict
