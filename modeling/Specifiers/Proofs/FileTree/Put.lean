import Specifiers.Proofs.FileTree.Follow

/-!
# What putting a tree somewhere changes

A tree that is put at segments can be followed from there. Elsewhere nothing changes, as far as it can be
seen from outside (`surface`): files keep their bytes, directories stay, and what is missing stays missing,
but for the directories that are made on the way. All of this is about segments that lead downwards, and
it goes by induction on the segments at which the tree is put, along which `put` recurses.
-/

namespace Specifiers

namespace FileTree

variable {t new inner : FileTree} {es : List (String × FileTree)} {s : String}
  {place rest segments : List String}

/-! ## At the place -/

/-- The new tree is where it was put. -/
theorem follow_put (down : ".." ∉ place) : follow [] (put new place t) place = .ok new := by
  induction place generalizing t with
  | nil => rfl
  | cons s rest ih =>
    rw [put, follow_cons_of_some down (by rw [Table.find?_insert, if_pos rfl])]
    exact ih (List.not_mem_of_not_mem_cons down)

/-- On the way to the place stands what stood there, with the new tree put into it. -/
theorem follow_put_above (down : ".." ∉ place) (h : follow [] t place = .ok inner) :
    follow [] (put new (place ++ rest) t) place = .ok (put new rest inner) := by
  induction place generalizing t with
  | nil =>
    obtain rfl := Except.ok.inj h
    rfl
  | cons s place ih =>
    cases t with
    | file bytes => simp [follow] at h
    | directory es =>
      cases hfind : Table.find? es s with
      | none => simp [follow_cons_of_none down hfind] at h
      | some next =>
        have hlookup : List.lookup s es = some next := hfind
        rw [follow_cons_of_some down hfind] at h
        rw [List.cons_append, put, entries, hlookup, Option.getD_some,
          follow_cons_of_some down (by rw [Table.find?_insert, if_pos rfl])]
        exact ih (List.not_mem_of_not_mem_cons down) h

/-! ## Putting twice -/

/-- What is put below a place goes into what has been put there before. -/
theorem put_append_put (a b t : FileTree) (place rest : List String) :
    put a (place ++ rest) (put b place t) = put (put a rest b) place t := by
  induction place generalizing t with
  | nil => rfl
  | cons s place ih =>
    have hlookup (value : FileTree) (es : List (String × FileTree)) :
        List.lookup s (Table.insert s value es) = some value := by
      have hfind : Table.find? (Table.insert s value es) s = some value := by
        rw [Table.find?_insert, if_pos rfl]
      exact hfind
    rw [List.cons_append, put, put, put, entries, hlookup, Option.getD_some, ih, Table.insert_insert]

/-- In an empty directory the directories on the way are made first. -/
theorem put_append_empty (a : FileTree) (place rest : List String) :
    put a (place ++ rest) (directory []) = put (put a rest (directory [])) place (directory []) := by
  induction place with
  | nil => rfl
  | cons s place ih =>
    rw [List.cons_append, put, put]
    exact congrArg (fun inner => directory (Table.insert s inner [])) ih

/-- What is put below a missing place comes into a new directory there. -/
theorem put_append_of_missing (a : FileTree) (down : ".." ∉ place)
    (missing : follow [] t place = .error .missing) :
    put a (place ++ rest) t = put (put a rest (directory [])) place t := by
  induction place generalizing t with
  | nil => cases missing
  | cons s place ih =>
    cases t with
    | file bytes => cases missing
    | directory es =>
      rw [List.cons_append, put, put]
      cases hfind : Table.find? es s with
      | none =>
        have hlookup : List.lookup s es = none := hfind
        rw [entries, hlookup, Option.getD_none, put_append_empty]
      | some inner =>
        have hlookup : List.lookup s es = some inner := hfind
        rw [follow_cons_of_some down hfind] at missing
        rw [entries, hlookup, Option.getD_some, ih (List.not_mem_of_not_mem_cons down) missing]

/-- Making a missing directory first makes no difference to what is put below it. -/
theorem put_append_put_empty (a : FileTree) (down : ".." ∉ place)
    (missing : follow [] t place = .error .missing) :
    put a (place ++ rest) (put (directory []) place t) = put a (place ++ rest) t := by
  rw [put_append_put, put_append_of_missing a down missing]

/-! ## Elsewhere -/

/-- A tree as it is seen from outside: of a directory it is not seen what is in it. -/
def surface : FileTree → FileTree
  | file bytes => file bytes
  | directory _ => directory []

/-- What stands at segments that do not lead through the place is seen to be the same as before, unless
it is a directory that was missing on the way to the place. -/
theorem follow_put_elsewhere (hplace : ".." ∉ place) (hsegments : ".." ∉ segments)
    (way : follow [] t place ≠ .error .notDirectory) (elsewhere : ¬place <+: segments) :
    (follow [] (put new place t) segments).map surface = (follow [] t segments).map surface ∨
      follow [] t segments = .error .missing ∧ segments <+: place ∧
        (follow [] (put new place t) segments).map surface = .ok (directory []) := by
  induction place generalizing t segments with
  | nil => exact absurd List.nil_prefix elsewhere
  | cons s place ih =>
    cases t with
    | file bytes => exact absurd rfl way
    | directory es =>
      cases segments with
      | nil => exact .inl rfl
      | cons s' segments =>
        rw [put]
        by_cases hs : s' = s
        · -- The segments go the same way as the place: what is put at `s` decides.
          subst hs
          have hrest := List.not_mem_of_not_mem_cons hplace
          have hrest' := List.not_mem_of_not_mem_cons hsegments
          have helsewhere : ¬place <+: segments := fun h =>
            elsewhere (List.cons_prefix_cons.mpr ⟨rfl, h⟩)
          rw [follow_cons_of_some hsegments (by rw [Table.find?_insert, if_pos rfl]), entries]
          cases hfind : Table.find? es s' with
          | some inner =>
            have hlookup : List.lookup s' es = some inner := hfind
            rw [follow_cons_of_some hplace hfind] at way
            rw [follow_cons_of_some hsegments hfind, hlookup, Option.getD_some]
            refine (ih hrest hrest' way helsewhere).imp_right ?_
            rintro ⟨hmissing, honway, hnew⟩
            exact ⟨hmissing, List.cons_prefix_cons.mpr ⟨rfl, honway⟩, hnew⟩
          | none =>
            have hlookup : List.lookup s' es = none := hfind
            rw [follow_cons_of_none hsegments hfind, hlookup, Option.getD_none]
            cases segments with
            | nil =>
              cases place with
              | nil => exact absurd List.prefix_rfl helsewhere
              | cons next place =>
                exact .inr ⟨rfl, List.cons_prefix_cons.mpr ⟨rfl, List.nil_prefix⟩, rfl⟩
            | cons next segments =>
              -- Below `s` there is nothing but what is made on the way.
              have hway : follow [] (directory []) place ≠ .error .notDirectory := by
                cases place with
                | nil => nofun
                | cons u us =>
                  rw [follow_empty hrest]
                  nofun
              refine (ih hrest hrest' hway helsewhere).imp (fun h => ?_) ?_
              · rw [h, follow_empty hrest']
              · rintro ⟨-, honway, hnew⟩
                exact ⟨rfl, List.cons_prefix_cons.mpr ⟨rfl, honway⟩, hnew⟩
        · left
          rw [follow_cons hsegments, follow_cons hsegments, Table.find?_insert, if_neg hs, entries]

/-- Nothing has to be made on the way to a place in a directory that is there. -/
theorem follow_put_aside {name : String} (hplace : ".." ∉ place ++ [name])
    (hsegments : ".." ∉ segments) (hdirectory : follow [] t place = .ok (directory es))
    (elsewhere : ¬place ++ [name] <+: segments) :
    (follow [] (put new (place ++ [name]) t) segments).map surface =
      (follow [] t segments).map surface := by
  have hway : follow [] t (place ++ [name]) ≠ .error .notDirectory := by
    have hname : ".." ∉ [name] := fun h => hplace (List.mem_append_right _ h)
    rw [follow_append_of_ok hname hdirectory, follow_cons hname]
    cases Table.find? es name <;> nofun
  refine (follow_put_elsewhere hplace hsegments hway elsewhere).resolve_right ?_
  rintro ⟨hmissing, hon, -⟩
  -- Segments before the place lead to the directory or to one above it.
  obtain ⟨rest, rfl⟩ : segments <+: place :=
    (List.prefix_concat_iff.mp hon).resolve_left fun h => elsewhere (h ▸ List.prefix_rfl)
  have hmissing' : follow [] t (segments ++ rest) = .error .missing :=
    follow_append_of_error (fun h => hplace (by simp [h])) hmissing
  exact absurd (hdirectory.symm.trans hmissing') (by simp)

/-! ## What is seen -/

/-- What stands at segments, as it is seen from outside. -/
def look (t : FileTree) (segments : List String) : Option FileTree := (t.at? segments).map surface

/-- What is seen at a path is the surface of what is there. -/
theorem look_eq (t : FileTree) (segments : List String) :
    t.look segments = ((follow [] t segments).map surface).toOption := by
  rw [look, at?]
  cases follow [] t segments <;> rfl

/-- Is at segments seen what was seen there before, or else, if they are on the way to something new, a
directory where there was nothing? -/
def Kept (before after : FileTree) (onTheWay : Prop) (segments : List String) : Prop :=
  after.look segments = before.look segments ∨
    onTheWay ∧ before.look segments = none ∧ after.look segments = some (directory [])

namespace Kept

variable {before after last : FileTree} {p q : Prop}

theorem refl (t : FileTree) (p : Prop) (segments : List String) : Kept t t p segments := .inl rfl

/-- What may be made only on the way to one place may be made on the way to places of which it is one. -/
theorem imp (h : Kept before after p segments) (hpq : p → q) : Kept before after q segments :=
  h.imp_right fun ⟨hp, hnew⟩ => ⟨hpq hp, hnew⟩

/-- What is kept twice is kept altogether: a directory that has been made is there to stay. -/
theorem trans (h : Kept before after p segments) (h' : Kept after last p segments) :
    Kept before last p segments := by
  rcases h' with hsame | ⟨hp, hnone, hmade⟩
  · unfold Kept
    rw [hsame]
    exact h
  · rcases h with hsame | ⟨-, -, hmade'⟩
    · exact .inr ⟨hp, hsame ▸ hnone, hmade⟩
    · exact absurd (hmade'.symm.trans hnone) (by simp)

end Kept

theorem kept_put (hplace : ".." ∉ place) (hsegments : ".." ∉ segments)
    (way : follow [] t place ≠ .error .notDirectory) (elsewhere : ¬place <+: segments) :
    Kept t (put new place t) (segments <+: place) segments := by
  unfold Kept
  rw [look_eq, look_eq]
  rcases follow_put_elsewhere hplace hsegments way elsewhere with hsame | ⟨hmissing, honway, hmade⟩
  · exact .inl (congrArg Except.toOption hsame)
  · exact .inr ⟨honway, by rw [hmissing]; rfl, by rw [hmade]; rfl⟩

/-- Is nothing changed outside a place, but for directories that are made on the way to it? -/
def Keeps (place : List String) (before after : FileTree) : Prop :=
  ∀ segments, ".." ∉ segments → ¬place <+: segments →
    Kept before after (segments <+: place) segments

namespace Keeps

variable {before after last : FileTree} {way : List String}

theorem refl (place : List String) (t : FileTree) : Keeps place t t := fun _ _ _ => .refl _ _ _

theorem trans (h : Keeps place before after) (h' : Keeps place after last) : Keeps place before last :=
  fun segments hdown elsewhere => (h segments hdown elsewhere).trans (h' segments hdown elsewhere)

/-- What is put at a place that can be reached leaves everything else as it is. -/
theorem put (down : ".." ∉ place) (reached : follow [] t place ≠ .error .notDirectory) :
    Keeps place t (FileTree.put new place t) :=
  fun _ hdown elsewhere => kept_put down hdown reached elsewhere

/-- A missing directory on the way to a place can be made. -/
theorem put_directory (down : ".." ∉ place) (hway : way <+: place)
    (missing : follow [] t way = .error .missing) :
    Keeps place t (FileTree.put (directory []) way t) := by
  have hdown : ".." ∉ way := fun hmem => down (hway.subset hmem)
  intro segments hsegments elsewhere
  by_cases hbelow : way <+: segments
  · -- At the new directory and below it nothing was there.
    obtain ⟨rest, rfl⟩ := hbelow
    have hrest : ".." ∉ rest := fun hmem => hsegments (List.mem_append_right _ hmem)
    have hbefore : t.look (way ++ rest) = none := by
      rw [look_eq, follow_append_of_error hrest missing]
      rfl
    unfold Kept
    rw [hbefore, look_eq, follow_append_of_ok hrest (follow_put hdown)]
    cases rest with
    | nil => exact .inr ⟨by simpa using hway, rfl, rfl⟩
    | cons s rest =>
      rw [follow_empty hrest]
      exact .inl rfl
  · have hreached : follow [] t way ≠ .error .notDirectory := by
      rw [missing]
      nofun
    exact (kept_put hdown hsegments hreached hbelow).imp fun h => h.trans hway

end Keeps

end FileTree

namespace FileSystem

variable {fs : FileSystem} {place : Path}

/-! ## Absolute paths -/

/-- An absolute path leads along its own segments. -/
theorem segmentsOf_of_absolute (h : place.absolute = true) : fs.segmentsOf place = place.segments := by
  rw [segmentsOf, Path.from', if_pos h]

/-- Putting at an absolute path is putting into the tree, for such a path leads where its segments do. -/
theorem tree_put (h : place.absolute = true) (new : FileTree) :
    (fs.put place new).tree = FileTree.put new place.segments fs.tree := by
  rw [put, segmentsOf_of_absolute h]

/-- At an absolute path without double dots stands what was put there. -/
theorem at?_put (h : place.absolute = true) (down : ".." ∉ place.segments) (new : FileTree) :
    (fs.put place new).at? place = some new := by
  rw [at?, tree_put h, segmentsOf_of_absolute h, FileTree.at?, FileTree.follow_put down]
  rfl

/-! ## Two file systems -/

/-- Is the same seen at a path in two file systems? -/
def SameAt (fs fs' : FileSystem) (p : Path) : Prop :=
  (FileTree.follow [] fs'.tree (fs'.segmentsOf p)).map FileTree.surface =
    (FileTree.follow [] fs.tree (fs.segmentsOf p)).map FileTree.surface

namespace SameAt

variable {fs' : FileSystem} {p : Path}

/-- Where the same is seen, the same is read. -/
theorem read (h : SameAt fs fs' p) : fs'.read p = fs.read p := by
  have hread : fs'.tree.read (fs'.segmentsOf p) = fs.tree.read (fs.segmentsOf p) := by
    unfold FileTree.read
    unfold SameAt at h
    revert h
    rcases FileTree.follow [] fs'.tree (fs'.segmentsOf p) with e' | ⟨bytes' | es'⟩ <;>
      rcases FileTree.follow [] fs.tree (fs.segmentsOf p) with e | ⟨bytes | es⟩ <;>
        simp [FileTree.surface, Except.map]
  rw [FileSystem.read, FileSystem.read, hread]

/-- It is seen there in the one file system and in the other. -/
theorem map_at? (h : SameAt fs fs' p) :
    (fs'.at? p).map FileTree.surface = (fs.at? p).map FileTree.surface := by
  have hlook : fs'.tree.look (fs'.segmentsOf p) = fs.tree.look (fs.segmentsOf p) := by
    rw [FileTree.look_eq, FileTree.look_eq, h]
  exact hlook

/-- An entry is there in both or in neither. -/
theorem hasEntry (h : SameAt fs fs' p) : fs'.hasEntry p = fs.hasEntry p := by
  unfold FileSystem.hasEntry
  rw [← Option.isSome_map (f := FileTree.surface), h.map_at?, Option.isSome_map]

end SameAt

end FileSystem

end Specifiers
