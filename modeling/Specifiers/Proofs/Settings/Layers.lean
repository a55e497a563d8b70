import Specifiers.Proofs.Settings.Outcome
import Specifiers.Proofs.Toml.Document
import Specifiers.Proofs.Value.Merge
import Specifiers.Settings.Layers

/-!
# Which layer a field has its value from

Each field has its value from the highest layer that binds it, by itself (`selected`). What is no table
in place of a section binds nothing, and it hides what the layer of the user binds in that section.
What else a layer holds has no effect on the settings.
-/

namespace Specifiers

namespace Settings

open Value (Distinct merge laidOver)

variable {base base' upper upper' user own : Table Value} {f : Field} {part : Part}

/-! ## Laying one table over another -/

/-- A value that is laid over another one is read as if it stood alone. -/
theorem alike_laidOver (old : Option Value) (v : Value) : Alike (some (laidOver old v)) (some v) := by
  rcases Value.laidOver_eq_or old v with h | ⟨entries, merged, rfl, h⟩
  · exact .inl (congrArg some h)
  · exact .inr ⟨merged, entries, congrArg some h, rfl⟩

/-- What is laid over another value keeps its type. -/
theorem typeName_laidOver (old : Option Value) (v : Value) : (laidOver old v).typeName = v.typeName := by
  rcases Value.laidOver_eq_or old v with h | ⟨entries, merged, rfl, h⟩
  · rw [h]
  · rw [h]
    rfl

/-- What a merge binds at a field: what the upper table binds, laid over what the lower one binds, which
is hidden when something else than a table stands above its section. -/
theorem bound_merge (distinct : Distinct (.table upper)) :
    bound (merge base upper) f =
      match bound upper f with
      | some v => some (laidOver (bound base f) v)
      | none => if IsTable (upper.find? f.part.name) then bound base f else none := by
  -- what the upper layer has in the place of the part decides: nothing, a table, or anything else
  cases hupper : upper.find? f.part.name with
  | none =>
    rw [bound_of_ne (t := upper) (by simp [hupper]), bound,
      Value.find?_merge_of_none distinct.nodup_keys hupper]
    simp [bound, IsTable]
  | some above =>
    have hfind : (merge base upper).find? f.part.name =
        some (laidOver (base.find? f.part.name) above) :=
      Value.find?_merge_of_some distinct.nodup_keys hupper
    cases above with
    | table entries =>
      have hkeys : (Table.keys entries).Nodup := (distinct.of_find? hupper).nodup_keys
      rw [bound_of_table hupper, if_pos (by simp [IsTable, Value.table?])]
      -- two tables are merged entry by entry, a table over anything else replaces it
      by_cases h : ∃ below, base.find? f.part.name = some (.table below)
      · obtain ⟨below, hbelow⟩ := h
        rw [hbelow, Value.laidOver_table] at hfind
        rw [bound_of_table hfind, bound_of_table hbelow]
        cases hentry : Table.find? entries f.name with
        | none => exact Value.find?_merge_of_none hkeys hentry
        | some v => exact Value.find?_merge_of_some hkeys hentry
      · have hne : ∀ below, base.find? f.part.name ≠ some (.table below) :=
          fun below hbelow => h ⟨below, hbelow⟩
        rw [Value.laidOver_table_of_ne hne] at hfind
        rw [bound_of_table hfind, bound_of_ne hne]
        cases Table.find? entries f.name with
        | none => rfl
        | some v => exact congrArg some (Value.laidOver_none v).symm
    | _ =>
      rw [Value.laidOver_of_ne (by simp)] at hfind
      rw [bound_of_ne (by simp [hfind]), bound_of_ne (t := upper) (by simp [hupper]),
        if_neg (by simp [IsTable, Value.table?])]

/-- A merge is read as if the upper table bound its values alone and the lower one bound the others,
where it is not hidden. -/
theorem alike_bound_merge (distinct : Distinct (.table upper)) :
    Alike (bound (merge base upper) f)
      ((bound upper f).or (if IsTable (upper.find? f.part.name) then bound base f else none)) := by
  rw [bound_merge distinct]
  cases bound upper f with
  | none => exact .refl _
  | some v => exact alike_laidOver _ v

/-- In place of a section stands what the upper table has there, or else what the lower one has. -/
theorem alike_find?_merge (distinct : Distinct (.table upper)) :
    Alike ((merge base upper).find? part.name)
      ((upper.find? part.name).or (base.find? part.name)) := by
  cases hupper : upper.find? part.name with
  | none => exact .inl (Value.find?_merge_of_none distinct.nodup_keys hupper)
  | some v =>
    rw [Value.find?_merge_of_some distinct.nodup_keys hupper]
    exact alike_laidOver _ v

/-- The type of an entry of a merged table is that of the upper entry, or else of the lower one. -/
theorem map_typeName_find?_merge (distinct : Distinct (.table upper)) :
    ((merge base upper).find? part.name).map Value.typeName =
      ((upper.find? part.name).map Value.typeName).or
        ((base.find? part.name).map Value.typeName) := by
  cases hupper : upper.find? part.name with
  | none => rw [Value.find?_merge_of_none distinct.nodup_keys hupper]; rfl
  | some v =>
    rw [Value.find?_merge_of_some distinct.nodup_keys hupper, Option.map_some, typeName_laidOver]
    rfl

theorem Agree.refl (t : Table Value) : Agree t t := ⟨fun _ => rfl, fun _ => rfl⟩

/-- Merges of tables that agree do so, too. -/
theorem Agree.merge (hbase : Agree base base') (hupper : Agree upper upper')
    (distinct : Distinct (.table upper)) (distinct' : Distinct (.table upper')) :
    Agree (merge base upper) (Value.merge base' upper') where
  bound f := by
    rw [bound_merge distinct, bound_merge distinct', hbase.bound, hupper.bound]
    simp only [isTable_congr (hupper.type f.part)]
  type part := by
    rw [map_typeName_find?_merge distinct, map_typeName_find?_merge distinct', hbase.type,
      hupper.type]

/-! ## What is asked for -/

section Asked

variable (extensions : Option (List String)) (failFast : Option Bool)

/-- The value that is asked for at a field: suffixes, when there are any, and what the first failure
does. -/
def asked : Field → Option Value
  | .extensions =>
    if (extensions.getD []).isEmpty then none else some (textsValue (extensions.getD []))
  | .failFast => failFast.map .bool
  | .encoding | .exclude | .keep => none

/-- The entry of a value at a key, if there is a value. -/
def entryOf (key : String) (v : Option Value) : Table Value := v.toList.map (key, ·)

theorem overrides_eq : overrides extensions failFast =
    [(Part.scan.name, .table (entryOf "extensions" (asked extensions failFast .extensions) ++
      entryOf "fail_fast" (asked extensions failFast .failFast)))] := by
  by_cases h : (extensions.getD []).isEmpty <;> cases failFast <;> simp [overrides, asked, entryOf, h]

/-- What is asked for binds the fields that are asked for. -/
theorem bound_overrides : bound (overrides extensions failFast) f = asked extensions failFast f := by
  rw [overrides_eq]
  cases f with
  | exclude => rfl
  | keep => rfl
  | _ =>
    rw [bound_of_table rfl]
    cases asked extensions failFast .extensions <;> cases asked extensions failFast .failFast <;> rfl

/-- The values that are asked for have no tables in them. -/
theorem distinct_asked {v : Value} (h : asked extensions failFast f = some v) : Distinct v := by
  cases f with
  | extensions =>
    by_cases hempty : (extensions.getD []).isEmpty
    · simp [asked, hempty] at h
    · obtain rfl : textsValue (extensions.getD []) = v := by simpa [asked, hempty] using h
      refine .list fun item hitem => ?_
      obtain ⟨s, -, rfl⟩ := List.mem_map.mp hitem
      exact .text s
  | failFast =>
    obtain ⟨b, -, rfl⟩ := Option.map_eq_some_iff.mp h
    exact .bool b
  | _ => simp [asked] at h

/-- What is asked for is a table without repeated keys. -/
theorem distinct_overrides : Distinct (.table (overrides extensions failFast)) := by
  rw [overrides_eq]
  refine .table (by simp [Table.keys]) fun e he => ?_
  obtain rfl := List.mem_singleton.mp he
  refine .table ?_ fun e he => ?_
  · cases asked extensions failFast .extensions <;> cases asked extensions failFast .failFast <;>
      simp [entryOf, Table.keys]
  · rcases List.mem_append.mp he with he | he <;> obtain ⟨v, hv, rfl⟩ := List.mem_map.mp he
    · exact distinct_asked extensions failFast (Option.mem_toList.mp hv)
    · exact distinct_asked extensions failFast (Option.mem_toList.mp hv)

end Asked

/-! ## Layers -/

/-- The value that is set for a field: what is asked for, or else what the project binds, or else what
the user binds, unless the project hides it. -/
def selected (user own : Table Value) (asked : Field → Option Value) (f : Field) : Option Value :=
  (asked f).or ((bound own f).or (if IsTable (own.find? f.part.name) then bound user f else none))

/-- What is asked for first hides the difference of what is alike behind it. -/
theorem Alike.or (x : Option Value) {a b : Option Value} (h : Alike a b) : Alike (x.or a) (x.or b) := by
  cases x with
  | none => exact h
  | some v => exact .refl _

/-- A table merged into an empty one agrees with it. -/
theorem agree_merge_empty (distinct : Distinct (.table user)) : Agree (merge [] user) user where
  bound f := by rw [bound, bound, Value.find?_merge_empty distinct.nodup_keys]
  type part := by rw [Value.find?_merge_empty distinct.nodup_keys]

variable (extensions : Option (List String)) (failFast : Option Bool)

/-- Nothing that is asked for stands in the way of a section. -/
theorem isTable_overrides (part : Part) :
    IsTable ((overrides extensions failFast).find? part.name) := by
  rw [overrides_eq]
  cases part with
  | filter => nofun
  | scan => exact fun v hv => Option.some.inj hv ▸ rfl

/-- What the layers laid over one another are read as. -/
theorem tells_stack (huser : Distinct (.table user)) (hown : Distinct (.table own)) :
    Tells (selected user own (asked extensions failFast))
      ((own.find? Part.filter.name).or (user.find? Part.filter.name))
      (ofTable (stack [user, own, overrides extensions failFast])) := by
  have hasked := distinct_overrides extensions failFast
  have hplace (part : Part) :
      Alike ((stack [user, own, overrides extensions failFast]).find? part.name)
        (((overrides extensions failFast).find? part.name).or
          ((merge (merge [] user) own).find? part.name)) := alike_find?_merge hasked
  refine tells_ofTable ?_ (fun f => ?_) ?_
  · refine (hplace .scan).isTable_iff.mpr fun v hv => isTable_overrides extensions failFast .scan v ?_
    rwa [overrides_eq] at hv ⊢
  · refine (alike_bound_merge hasked).trans ?_
    rw [bound_overrides, if_pos (isTable_overrides extensions failFast f.part), selected,
      ← (agree_merge_empty huser).bound f]
    exact (alike_bound_merge hown).or _
  · refine (hplace .filter).trans ?_
    rw [← Value.find?_merge_empty huser.nodup_keys]
    exact alike_find?_merge hown

/-- No table of a layer has a key twice. -/
theorem distinct_of_layer {fs : FileSystem} {path : Path} {t : Table Value}
    (h : layer fs path = .ok t) : Distinct (.table t) := by
  unfold layer at h
  split at h
  · obtain ⟨bytes, -, h⟩ := bind_eq_ok_iff.mp h
    exact Toml.distinct_of_ofBytes (mapError_eq_ok_iff.mp h)
  · obtain rfl := Except.ok.inj h
    exact Value.distinct_empty

/-- Settings are read from the layers laid over one another, when the layers can be read. -/
theorem load_eq {fs : FileSystem} {project : Path} (asked : Table Value)
    (huser : layer fs (userFile fs.home) = .ok user) (hown : layer fs project = .ok own) :
    load fs project asked = (ofTable (stack [user, own, asked])).mapError .invalid := by
  rw [load, huser, hown]
  rfl

/-- Layers that agree are read alike. -/
theorem ofTable_stack_congr {user' own' : Table Value} (asked : Table Value)
    (huser : Distinct (.table user)) (hown : Distinct (.table own))
    (huser' : Distinct (.table user')) (hown' : Distinct (.table own'))
    (hasked : Distinct (.table asked)) (hu : Agree user user') (ho : Agree own own') :
    ofTable (stack [user, own, asked]) = ofTable (stack [user', own', asked]) := by
  have hlow : Agree (merge [] user) (merge [] user') := (Agree.refl []).merge hu huser huser'
  have hmiddle := hlow.merge ho hown hown'
  exact (hmiddle.merge (Agree.refl asked) hasked hasked).ofTable_eq

/-- When it is asked for, whether the first failure ends a scan is as asked for, and has no part in the
other settings. -/
theorem load_failFast {fs : FileSystem} {project : Path} {b : Bool} {s : Settings}
    (h : load fs project (overrides extensions (some b)) = .ok s) :
    s.scan.failFast = b ∧ ∀ b', load fs project (overrides extensions (some b')) =
      .ok { s with scan := { s.scan with failFast := b' } } := by
  obtain ⟨user, huser, hrest⟩ := bind_eq_ok_iff.mp h
  obtain ⟨own, hown, hread⟩ := bind_eq_ok_iff.mp hrest
  have htells (b : Bool) := tells_stack extensions (some b) (distinct_of_layer huser)
    (distinct_of_layer hown)
  obtain ⟨hfilter, hf, hs⟩ := ((htells b).ok_iff s).mp (mapError_eq_ok_iff.mp hread)
  refine ⟨truthOf_eq_ok_iff.mpr hs.failFast |> Except.ok.inj |> Eq.symm, fun b' => ?_⟩
  rw [load_eq _ huser hown, mapError_eq_ok_iff, (htells b').ok_iff]
  exact ⟨hfilter, ⟨hf.exclude, hf.keep⟩, ⟨hs.extensions, hs.encoding, .bool b'⟩⟩

/-- The settings of a project hold, for each field by itself, the value of the highest layer that binds
it: what is asked for, the file of the project, the file of the user, the defaults. Nothing else in the
files has an effect. -/
theorem load_selects {fs : FileSystem} {project : Path} {user own : Table Value}
    (huser : layer fs (userFile fs.home) = .ok user) (hown : layer fs project = .ok own)
    (extensions : Option (List String)) (failFast : Option Bool) :
    (∃ outcome, load fs project (overrides extensions failFast) = outcome.mapError .invalid ∧
      Tells (selected user own (asked extensions failFast))
        ((own.find? Part.filter.name).or (user.find? Part.filter.name)) outcome) ∧
    ∀ {fs' : FileSystem} {project' : Path} {user' own' : Table Value},
      layer fs' (userFile fs'.home) = .ok user' → layer fs' project' = .ok own' →
      Agree user user' → Agree own own' →
      load fs' project' (overrides extensions failFast) =
        load fs project (overrides extensions failFast) := by
  have hdistinct := distinct_of_layer huser
  have hdistinct' := distinct_of_layer hown
  refine ⟨⟨_, load_eq _ huser hown, tells_stack extensions failFast hdistinct hdistinct'⟩, ?_⟩
  intro fs' project' user' own' huser' hown' hu ho
  rw [load_eq _ huser hown, load_eq _ huser' hown', ofTable_stack_congr _ hdistinct hdistinct'
    (distinct_of_layer huser') (distinct_of_layer hown') (distinct_overrides extensions failFast) hu ho]

/-- A file system with a project whose scan is no table and hides that of the user, which does not fit. -/
def masking : FileSystem where
  tree := .directory
    [("home", .directory [(".config", .directory [("jsreq", .directory
        [(fileName, .file (Utf8.encode "[scan]\nencoding = 3\n".toList))])])]),
      ("repo", .directory [(directoryName, .directory
        [(fileName, .file (Utf8.encode "scan = 1\n".toList))])])]
  here := ⟨.root, []⟩
  home := ⟨.root, ["home"]⟩

/-- In place of a section the project has a number: this hides what the user sets there, and the default
remains but for what is asked for. -/
theorem load_selects_masking :
    layer masking (userFile masking.home) = .ok [("scan", .table [("encoding", .integer 3)])] ∧
      layer masking (projectFile ⟨.root, ["repo"]⟩) = .ok [("scan", .integer 1)] ∧
      load masking (projectFile ⟨.root, ["repo"]⟩) (overrides none (some true)) =
        .ok { scan := { failFast := true } } := by
  have huser : layer masking (userFile masking.home) =
      .ok [("scan", .table [("encoding", .integer 3)])] := by decide +kernel
  have hown : layer masking (projectFile ⟨.root, ["repo"]⟩) = .ok [("scan", .integer 1)] := by decide +kernel
  obtain ⟨⟨outcome, hload, htells⟩, -⟩ := load_selects huser hown none (some true)
  have hset : outcome = .ok { scan := { failFast := true } } :=
    (htells.ok_iff _).mpr ⟨by decide, ⟨rfl, rfl⟩, ⟨rfl, rfl, .bool true⟩⟩
  exact ⟨huser, hown, by rw [hload, hset]; rfl⟩

end Settings

end Specifiers
