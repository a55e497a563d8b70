import Mathlib.Algebra.Ring.Nat
import Mathlib.Data.List.Induction
import Specifiers.Table

/-!
# What a table holds after a write

Writing a value at a key changes what the table holds there and nowhere else. The keys stay different,
and in the order in which they were first written: a new key comes last. Entries with different keys
are already the table that writing them gives, and tables with the same keys that hold the same are equal.
-/

namespace Specifiers

namespace Table

variable {α : Type} {t t' : Table α} {key : String}

@[simp]
theorem find?_nil : find? ([] : Table α) key = none := rfl

@[simp]
theorem keys_nil : keys ([] : Table α) = [] := rfl

/-- An entry is found at the first place of its key. -/
theorem find?_cons (k : String) (v : α) (t : Table α) (key : String) :
    find? ((k, v) :: t) key = if key = k then some v else t.find? key := by
  unfold find?
  rw [List.lookup_cons]
  by_cases h : key = k
  · simp [h]
  · rw [beq_eq_false_iff_ne.mpr h, if_neg h]

/-- What stands in front is found first. -/
theorem find?_append (t t' : Table α) (key : String) :
    find? (t ++ t') key = (t.find? key).or (t'.find? key) := List.lookup_append

/-- A write is seen at its key only. -/
theorem find?_insert (t : Table α) (key other : String) (value : α) :
    (t.insert key value).find? other = if other = key then some value else t.find? other := by
  induction t with
  | nil => rw [insert, find?_cons]
  | cons e t ih =>
    obtain ⟨k, v⟩ := e
    rw [insert, find?_cons]
    split
    · -- The key is this entry's: the write replaces its value.
      next hk =>
      rw [beq_iff_eq] at hk
      subst hk
      rw [find?_cons]
      split <;> rfl
    · next hk =>
      have hk : k ≠ key := by simpa using hk
      rw [find?_cons, ih]
      by_cases h : other = k
      · subst h
        simp [hk]
      · simp [h]

/-- Writing what a key holds changes nothing. -/
theorem insert_of_find? {value : α} (h : t.find? key = some value) : t.insert key value = t := by
  induction t with
  | nil => simp at h
  | cons e t ih =>
    obtain ⟨k, v⟩ := e
    rw [find?_cons] at h
    rw [insert]
    by_cases hk : key = k
    · rw [if_pos hk] at h
      rw [if_pos (by simp [hk]), Option.some.inj h]
    · rw [if_neg hk] at h
      rw [if_neg (by simpa using Ne.symm hk), ih h]

/-- Of two writes at a key the later one counts. -/
theorem insert_insert (t : Table α) (key : String) (value value' : α) :
    (t.insert key value).insert key value' = t.insert key value' := by
  induction t with
  | nil => simp [insert]
  | cons e t ih =>
    obtain ⟨k, v⟩ := e
    by_cases hk : k = key
    · simp [insert, hk]
    · simp [insert, hk, ih]

/-- Taking out a key is seen at that key only. -/
theorem find?_filter_ne (t : Table α) (key other : String) :
    find? (t.filter (·.1 != key)) other = if other = key then none else t.find? other := by
  induction t with
  | nil => simp
  | cons e t ih =>
    obtain ⟨k, v⟩ := e
    rw [List.filter_cons]
    by_cases hk : k = key
    · subst hk
      rw [if_neg (by simp), ih, find?_cons]
      split <;> rfl
    · rw [if_pos (by simpa using hk), find?_cons, ih, find?_cons]
      by_cases hother : other = key
      · subst hother
        simp [Ne.symm hk]
      · rw [if_neg hother, if_neg hother]

/-- A table holds a value at its keys only. -/
theorem find?_eq_none_iff : t.find? key = none ↔ key ∉ t.keys := by
  induction t with
  | nil => simp
  | cons e t ih =>
    obtain ⟨k, v⟩ := e
    rw [find?_cons, keys, List.map_cons, List.mem_cons, not_or, ← keys, ← ih]
    by_cases h : key = k <;> simp [h]

/-- What a table holds under a key is one of its entries. -/
theorem mem_of_find? {value : α} (h : t.find? key = some value) : (key, value) ∈ t := by
  induction t with
  | nil => simp at h
  | cons e t ih =>
    obtain ⟨k, v⟩ := e
    rw [find?_cons] at h
    split at h
    · next hk =>
      obtain rfl := Option.some.inj h
      exact hk ▸ List.mem_cons_self
    · exact List.mem_cons_of_mem _ (ih h)

/-- Of a table with different keys each entry is held under its key. -/
theorem find?_eq_some_iff (distinct : t.keys.Nodup) {value : α} :
    t.find? key = some value ↔ (key, value) ∈ t := by
  refine ⟨mem_of_find?, fun h => ?_⟩
  induction t with
  | nil => simp at h
  | cons e t ih =>
    obtain ⟨k, v⟩ := e
    rw [keys, List.map_cons, List.nodup_cons] at distinct
    rw [find?_cons]
    rcases List.mem_cons.mp h with heq | h
    · obtain ⟨rfl, rfl⟩ := Prod.mk.inj heq
      rw [if_pos rfl]
    · have hne : key ≠ k := fun e => distinct.1 (e ▸ List.mem_map.mpr ⟨_, h, rfl⟩)
      rw [if_neg hne, ih distinct.2 h]

/-- Tables with the same different keys are equal when they hold the same. -/
theorem ext_find? (hkeys : t.keys = t'.keys) (distinct : t.keys.Nodup)
    (h : ∀ key, t.find? key = t'.find? key) : t = t' := by
  induction t generalizing t' with
  | nil => exact (List.map_eq_nil_iff.mp hkeys.symm).symm
  | cons e t ih =>
    obtain ⟨k, v⟩ := e
    cases t' with
    | nil => simp [keys] at hkeys
    | cons e' t' =>
      obtain ⟨k', v'⟩ := e'
      simp only [keys, List.map_cons, List.cons.injEq] at hkeys
      obtain ⟨rfl, hkeys⟩ := hkeys
      rw [keys, List.map_cons, List.nodup_cons] at distinct
      have hv : v = v' := by simpa [find?_cons] using h k
      have hrest (key : String) : find? t key = find? t' key := by
        by_cases hk : key = k
        · subst hk
          have hnew : key ∉ keys t' := by rw [keys, ← hkeys]; exact distinct.1
          rw [find?_eq_none_iff.mpr distinct.1, find?_eq_none_iff.mpr hnew]
        · simpa [find?_cons, hk] using h key
      rw [hv, ih hkeys distinct.2 hrest]

/-- What a table with different keys holds does not depend on the order of its entries. -/
theorem find?_of_perm (h : t.Perm t') (distinct : t.keys.Nodup) (key : String) :
    t'.find? key = t.find? key := by
  have distinct' : t'.keys.Nodup := (h.map _).nodup distinct
  refine Option.ext fun value => ?_
  rw [find?_eq_some_iff distinct', find?_eq_some_iff distinct, h.mem_iff]

/-- After a write an entry is the one that was written or one from before. -/
theorem mem_insert {value : α} {e : String × α} (h : e ∈ t.insert key value) :
    e = (key, value) ∨ e ∈ t := by
  induction t with
  | nil => simpa [insert] using h
  | cons e' t ih =>
    obtain ⟨k, v⟩ := e'
    rw [insert] at h
    split at h
    · next hk =>
      rw [beq_iff_eq] at hk
      subst hk
      rcases List.mem_cons.mp h with rfl | h
      · exact .inl rfl
      · exact .inr (List.mem_cons_of_mem _ h)
    · rcases List.mem_cons.mp h with rfl | h
      · exact .inr List.mem_cons_self
      · exact (ih h).imp_right (List.mem_cons_of_mem _)

/-- A new key is written after the others. -/
theorem insert_of_not_mem (value : α) (new : key ∉ t.keys) :
    t.insert key value = t ++ [(key, value)] := by
  induction t with
  | nil => rfl
  | cons e t ih =>
    obtain ⟨k, v⟩ := e
    unfold keys at *
    rw [List.map_cons, List.mem_cons, not_or] at new
    have hk : ¬(k == key) = true := by simpa using Ne.symm new.1
    rw [insert, if_neg hk, List.cons_append, ih new.2]

/-- The keys after a write: those from before, and the key after them if it is new. -/
theorem keys_insert (t : Table α) (key : String) (value : α) :
    (t.insert key value).keys = if key ∈ t.keys then t.keys else t.keys ++ [key] := by
  split
  · next hmem =>
    induction t with
    | nil => simp at hmem
    | cons e t ih =>
      obtain ⟨k, v⟩ := e
      rw [insert]
      split
      · rfl
      · next hk =>
        have hne : key ≠ k := fun heq => hk (beq_iff_eq.mpr heq.symm)
        rw [keys, List.map_cons, List.mem_cons] at hmem
        exact congrArg (k :: ·) (ih (hmem.resolve_left hne))
  · next new => rw [insert_of_not_mem value new, keys, List.map_append]; rfl

/-- A write keeps the keys different. -/
theorem nodup_keys_insert (value : α) (h : t.keys.Nodup) : (t.insert key value).keys.Nodup := by
  rw [keys_insert]
  split
  · exact h
  · next new => simpa [List.nodup_append] using ⟨h, fun k hk heq => new (heq ▸ hk)⟩

/-- Writing entries with different keys gives these entries. -/
theorem ofEntries_eq_self {entries : List (String × α)} (distinct : (keys entries).Nodup) :
    ofEntries entries = entries := by
  -- The entries that are written so far stand in front of those to come.
  have hfold (done rest : List (String × α)) (h : (keys (done ++ rest)).Nodup) :
      rest.foldl (fun t e => insert e.1 e.2 t) done = done ++ rest := by
    induction rest generalizing done with
    | nil => simp
    | cons e rest ih =>
      have new : e.1 ∉ keys done := by
        unfold keys at h ⊢
        rw [List.map_append, List.nodup_append] at h
        intro hmem
        exact h.2.2 _ hmem _ (by simp) rfl
      rw [List.foldl_cons, insert_of_not_mem e.2 new, ih _ (by simpa using h), List.append_assoc]
      rfl
  exact hfold [] entries (by simpa using distinct)

/-- The last entry is inserted last. -/
theorem ofEntries_concat (entries : List (String × α)) (e : String × α) :
    ofEntries (entries ++ [e]) = (ofEntries entries).insert e.1 e.2 := by
  simp [ofEntries]

/-- The table that writing entries gives has different keys. -/
theorem nodup_keys_ofEntries (entries : List (String × α)) : (ofEntries entries).keys.Nodup := by
  induction entries using List.reverseRecOn with
  | nil => exact List.nodup_nil
  | append_singleton entries e ih =>
    rw [ofEntries_concat]
    exact nodup_keys_insert e.2 ih

/-- The keys of entries that are written one after the other are their keys, each at its first place. -/
theorem keys_ofEntries (entries : List (String × α)) :
    (ofEntries entries).keys = (entries.map Prod.fst).eraseDups := by
  induction entries using List.reverseRecOn with
  | nil => rfl
  | append_singleton entries e ih =>
    rw [ofEntries_concat, keys_insert, ih, List.map_append, List.map_singleton, List.eraseDups_append]
    generalize entries.map Prod.fst = names
    by_cases h : e.1 ∈ names
    · have hnone : [e.1].removeAll names = [] := by simp [List.removeAll, h]
      rw [if_pos (List.mem_eraseDups.mpr h), hnone, List.eraseDups_nil, List.append_nil]
    · have hnew : [e.1].removeAll names = [e.1] := by simp [List.removeAll, h]
      rw [if_neg (mt List.mem_eraseDups.mp h), hnew, List.eraseDups_cons, List.filter_nil,
        List.eraseDups_nil]

/-- Each of them holds what was written there last. -/
theorem find?_ofEntries (entries : List (String × α)) (key : String) :
    (ofEntries entries).find? key = find? entries.reverse key := by
  induction entries using List.reverseRecOn with
  | nil => rfl
  | append_singleton entries e ih =>
    rw [ofEntries_concat, find?_insert, ih, List.reverse_append, List.reverse_singleton,
      List.singleton_append, find?_cons]

/-- Its entries are among those that were written. -/
theorem mem_of_mem_ofEntries {entries : List (String × α)} {e : String × α}
    (h : e ∈ ofEntries entries) : e ∈ entries := by
  induction entries using List.reverseRecOn with
  | nil => exact h
  | append_singleton entries last ih =>
    rw [ofEntries_concat] at h
    rcases mem_insert h with rfl | h
    · exact List.mem_append_right _ List.mem_cons_self
    · exact List.mem_append_left _ (ih h)

/-- A table in which something has been inserted is not empty. -/
theorem insert_ne_nil (t : Table α) (key : String) (value : α) : t.insert key value ≠ [] := by
  cases t with
  | nil => simp [insert]
  | cons e t =>
    rw [insert]
    split <;> simp

/-- Writing some entries does not give the empty table. -/
theorem ofEntries_ne_nil {entries : List (String × α)} (h : entries ≠ []) : ofEntries entries ≠ [] := by
  induction entries using List.reverseRecOn with
  | nil => exact absurd rfl h
  | append_singleton entries last ih =>
    rw [ofEntries_concat]
    exact insert_ne_nil _ _ _

/-- A write adds at most its own weight to that of a table. -/
theorem sum_map_insert_le (weight : String × α → Nat) (t : Table α) (key : String) (value : α) :
    ((t.insert key value).map weight).sum ≤ (t.map weight).sum + weight (key, value) := by
  induction t with
  | nil => simp [insert]
  | cons e t ih =>
    obtain ⟨k, v⟩ := e
    rw [insert]
    split
    · next hk =>
      rw [beq_iff_eq] at hk
      subst hk
      simp only [List.map_cons, List.sum_cons]
      omega
    · simp only [List.map_cons, List.sum_cons]
      omega

/-- A table that writing entries gives weighs no more than they do. -/
theorem sum_map_ofEntries_le (weight : String × α → Nat) (entries : List (String × α)) :
    ((ofEntries entries).map weight).sum ≤ (entries.map weight).sum := by
  have hfold (t : Table α) :
      ((entries.foldl (fun t e => insert e.1 e.2 t) t).map weight).sum ≤
        (t.map weight).sum + (entries.map weight).sum := by
    induction entries generalizing t with
    | nil => simp
    | cons e entries ih =>
      have hinsert : ((insert e.1 e.2 t).map weight).sum ≤ (t.map weight).sum + weight e :=
        sum_map_insert_le weight t e.1 e.2
      have hrest := ih (insert e.1 e.2 t)
      rw [List.foldl_cons, List.map_cons, List.sum_cons]
      omega
  simpa [ofEntries] using hfold []

end Table

end Specifiers
