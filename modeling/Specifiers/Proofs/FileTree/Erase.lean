import Specifiers.Proofs.FileTree.Put

/-!
# What taking something out changes

Nothing stands any more at segments at which something was taken out (`follow_erase`), and elsewhere the same
is seen as before (`Keeps.erase`). Both go by induction on the segments, along which `erase` recurses; a name
that is missing on the way ends it early.
-/

namespace Specifiers

namespace FileTree

variable {t inner : FileTree} {es es' : List (String × FileTree)} {s name : String}
  {place segments : List String}

/-- On the way to a place something is taken out of what stands there. -/
theorem erase_of_some (nonempty : place ≠ []) (h : Table.find? es s = some inner) :
    erase (s :: place) (directory es) = directory (Table.insert s (erase place inner) es) := by
  have hlookup : List.lookup s es = some inner := h
  rw [erase, hlookup]
  exact nonempty

/-- Where nothing stands on the way, nothing is taken out. -/
theorem erase_of_none (nonempty : place ≠ []) (h : Table.find? es s = none) :
    erase (s :: place) (directory es) = directory es := by
  have hlookup : List.lookup s es = none := h
  rw [erase, hlookup]
  exact nonempty

/-- What has been taken out of a directory is missing. -/
theorem follow_erase (down : ".." ∉ place ++ [name])
    (hdirectory : follow [] t place = .ok (directory es)) :
    follow [] (erase (place ++ [name]) t) (place ++ [name]) = .error .missing := by
  induction place generalizing t with
  | nil =>
    obtain rfl := Except.ok.inj hdirectory
    rw [List.nil_append, erase]
    exact follow_cons_of_none down (by rw [Table.find?_filter_ne, if_pos rfl])
  | cons s place ih =>
    have hs : ".." ∉ s :: place := fun hmem => down (List.mem_append_left _ hmem)
    rw [List.cons_append] at down ⊢
    have hrest := List.not_mem_of_not_mem_cons down
    cases t with
    | file bytes => cases hdirectory
    | directory es' =>
      cases hfind : Table.find? es' s with
      | none =>
        rw [follow_cons_of_none hs hfind] at hdirectory
        cases hdirectory
      | some inner =>
        rw [follow_cons_of_some hs hfind] at hdirectory
        -- the directory with the entry is rebuilt around what was erased below it
        rw [erase_of_some (by simp) hfind,
          follow_cons_of_some down (by rw [Table.find?_insert, if_pos rfl])]
        exact ih hrest hdirectory

/-- What stands at segments that do not lead through the place is seen to be the same as before. -/
theorem follow_erase_elsewhere (hsegments : ".." ∉ segments) (elsewhere : ¬place <+: segments) :
    (follow [] (erase place t) segments).map surface = (follow [] t segments).map surface := by
  induction place generalizing t segments with
  | nil => exact absurd List.nil_prefix elsewhere
  | cons s place ih =>
    cases t with
    | file bytes => rw [erase]
    | directory es =>
      cases segments with
      | nil =>
        by_cases hplace : place = []
        · subst hplace
          rfl
        · cases hfind : Table.find? es s with
          | none => rw [erase_of_none hplace hfind]
          | some inner => rw [erase_of_some hplace hfind]; rfl
      | cons s' segments =>
        by_cases hplace : place = []
        · -- The entry is taken out here, and the segments lead to another one.
          subst hplace
          have hs : s' ≠ s := fun heq => elsewhere (heq ▸ List.prefix_append [s'] segments)
          rw [erase, follow_cons hsegments, follow_cons hsegments, Table.find?_filter_ne, if_neg hs]
        · cases hfind : Table.find? es s with
          | none => rw [erase_of_none hplace hfind]
          | some inner =>
            rw [erase_of_some hplace hfind, follow_cons hsegments, follow_cons hsegments,
              Table.find?_insert]
            by_cases hs : s' = s
            · subst hs
              rw [if_pos rfl, hfind]
              exact ih (List.not_mem_of_not_mem_cons hsegments) fun h =>
                elsewhere (List.cons_prefix_cons.mpr ⟨rfl, h⟩)
            · rw [if_neg hs]

/-- What is taken out at a place or below it leaves everything else as it is. -/
theorem Keeps.erase {way : List String} (h : place <+: way) : Keeps place t (FileTree.erase way t) := by
  intro segments hsegments elsewhere
  left
  rw [look_eq, look_eq, follow_erase_elsewhere hsegments fun hway => elsewhere (h.trans hway)]

/-- A directory above a place that is kept is still there. -/
theorem Keeps.directory {before after : FileTree} (h : Keeps (place ++ [name]) before after)
    (down : ".." ∉ place) (hdirectory : follow [] before place = .ok (FileTree.directory es)) :
    ∃ es', follow [] after place = .ok (FileTree.directory es') := by
  have hlook : before.look place = some (FileTree.directory []) := by
    rw [look_eq, hdirectory]
    rfl
  have habove : ¬place ++ [name] <+: place := fun hprefix => by
    have hlength := hprefix.length_le
    rw [List.length_append, List.length_singleton] at hlength
    omega
  have hafter : after.look place = some (FileTree.directory []) := by
    rcases h place down habove with hsame | ⟨-, hnone, -⟩
    · rw [hsame, hlook]
    · exact absurd (hlook.symm.trans hnone) (by simp)
  rw [look_eq] at hafter
  rcases hfollow : follow [] after place with e | ⟨bytes | es'⟩
  · simp [hfollow, Except.map, Except.toOption] at hafter
  · simp [hfollow, Except.map, Except.toOption, surface] at hafter
  · exact ⟨es', rfl⟩

end FileTree

end Specifiers
