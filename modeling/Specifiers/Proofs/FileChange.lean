import Specifiers.FileChange
import Specifiers.Proofs.FileTree.Erase

/-!
# What a change comes to

A change succeeds or ends with an error, and either way the tree is what has been made of it by then. What
both can be is stated together (`Change.Meets`), and put together along a change by `Meets.bind` and
`Meets.tryCatch`. Making a directory with those above it ends, if the host refuses an operation, with a
directory on the way; it fails for another reason only before anything is changed (`makeDirectories_meets`).
Removing what stands at a place leaves everything else as it is, wherever it ends (`remove_meets`).
-/

namespace Specifiers

namespace Change

open FileTree (follow put erase Keeps)

variable {α β : Type} {refuses : Refusals} {t : FileTree} {p : Path} {place above : List String}
  {name : String} {es : List (String × FileTree)} {steps : FileOperation → Prop}

/-- Is the tree as it is allowed to be when a change ends, be it with a value or with an error? -/
def Meets (c : Change α) (t : FileTree) (ok : α → FileTree → Prop)
    (failed : ChangeError → FileTree → Prop) : Prop :=
  match c t with
  | .ok a after => ok a after
  | .error e after => failed e after

/-- Does a host refuse one of some operations on a tree? -/
def Refused (refuses : Refusals) (steps : FileOperation → Prop) (t : FileTree) : Prop :=
  ∃ op message, steps op ∧ refuses t op = some message

/-- The operations that removing a tree at a path takes. -/
inductive Removes : Path → FileTree → FileOperation → Prop
  | removeFile {p : Path} {bytes : List UInt8} : Removes p (.file bytes) (.removeFile p)
  | list {p : Path} {es : List (String × FileTree)} : Removes p (.directory es) (.list p)
  | entry {p : Path} {es : List (String × FileTree)} {name : String} {inner : FileTree}
      {op : FileOperation} (mem : (name, inner) ∈ es) (h : Removes (p.below [name]) inner op) :
      Removes p (.directory es) op
  | removeDirectory {p : Path} {es : List (String × FileTree)} :
      Removes p (.directory es) (.removeDirectory p)

/-- What is one of some operations is one of more. -/
theorem Refused.mono {steps steps' : FileOperation → Prop} (h : Refused refuses steps t)
    (hsteps : ∀ op, steps op → steps' op) : Refused refuses steps' t :=
  let ⟨op, message, hop, hrefuses⟩ := h
  ⟨op, message, hsteps op hop, hrefuses⟩

namespace Meets

variable {c : Change α} {f : α → Change β} {ok ok' : α → FileTree → Prop} {okf : β → FileTree → Prop}
  {failed failed' : ChangeError → FileTree → Prop}

/-- A change that only gives a value leaves the tree as it is. -/
theorem pure {a : α} (h : ok a t) : Meets (Pure.pure a) t ok failed := h

/-- What is known of the trees after a change can be said in weaker words. -/
theorem mono (h : Meets c t ok failed) (hok : ∀ a after, ok a after → ok' a after)
    (hfailed : ∀ e after, failed e after → failed' e after) : Meets c t ok' failed' := by
  unfold Meets at h ⊢
  generalize c t = result at h ⊢
  cases result with
  | ok a after => exact hok a after h
  | error e after => exact hfailed e after h

/-- What is known of the tree after an error alone can be said in weaker words. -/
theorem mono_failed (h : Meets c t ok failed) (hfailed : ∀ e after, failed e after → failed' e after) :
    Meets c t ok failed' := h.mono (fun _ _ hok => hok) hfailed

/-- A change goes on from where the one before it has come to, and ends where that one ends. -/
theorem bind (h : Meets c t ok failed) (hf : ∀ a after, ok a after → Meets (f a) after okf failed) :
    Meets (c >>= f) t okf failed := by
  show Meets (EStateM.bind c f) t okf failed
  unfold Meets EStateM.bind at *
  generalize c t = result at h ⊢
  cases result with
  | ok a after => exact hf a after h
  | error e after => exact h

/-- What is done after an error starts from the tree as it is by then. -/
theorem tryCatch {handle : ChangeError → Change α} (h : Meets c t ok failed')
    (hhandle : ∀ e after, failed' e after → Meets (handle e) after ok failed) :
    Meets (MonadExcept.tryCatch c handle) t ok failed := by
  show Meets (EStateM.tryCatch c handle) t ok failed
  unfold Meets EStateM.tryCatch at *
  generalize c t = result at h ⊢
  cases result with
  | ok a after => exact h
  | error e after => exact hhandle e after h

/-- A run ends with a value or with an error, and the tree is as it is said to be then. -/
theorem run_cases (h : Meets c t ok failed) :
    (∃ a after, c t = .ok a after ∧ ok a after) ∨ ∃ e after, c t = .error e after ∧ failed e after := by
  unfold Meets at h
  generalize c t = result at h ⊢
  cases result with
  | ok a after => exact .inl ⟨a, after, rfl, h⟩
  | error e after => exact .inr ⟨e, after, rfl, h⟩

/-- The tree is read as it is. -/
theorem get {f : FileTree → Change β} {okf : β → FileTree → Prop} (h : Meets (f t) t okf failed) :
    Meets (MonadState.get >>= f) t okf failed := h

end Meets

/-! ## Single operations -/

/-- Asking changes nothing, and what ends it is that the host refuses. -/
theorem ask_meets {op : FileOperation} (hop : steps op) :
    Meets (ask refuses op) t (fun _ after => after = t)
      fun e after => after = t ∧ Refused refuses steps t ∧ e.isMissing = false := by
  unfold Meets ask
  cases hrefuses : refuses t op with
  | none => simp
  | some message => exact ⟨rfl, ⟨op, message, hop, hrefuses⟩, rfl⟩

/-- Looking for an entry changes nothing. -/
theorem look?_meets (refuses : Refusals) (steps : FileOperation → Prop) (t : FileTree) {p : Path}
    (hop : steps (.look p)) :
    Meets (look? refuses p) t (fun found after => after = t ∧ found = t.at? p.segments)
      fun _ after => after = t ∧ Refused refuses steps t := by
  refine .bind ((ask_meets hop).mono_failed fun _ _ h => ⟨h.1, h.2.1⟩) ?_
  rintro _ _ rfl
  exact ⟨rfl, rfl⟩

/-- Where nothing stands, a directory that could not be made is not there after all. -/
theorem unlessThere_meets (hnone : t.at? p.segments = none) (e : ChangeError) :
    Meets (unlessThere refuses p e) t (fun _ _ => False) fun _ after => after = t := by
  refine .bind ((look?_meets refuses (fun _ => True) t trivial).mono_failed fun _ _ h => h.1) ?_
  rintro _ _ ⟨rfl, rfl⟩
  rw [hnone]
  rfl

/-- Where a path cannot be followed there is nothing. -/
theorem at?_of_error {e : FileFault} (h : follow [] t place = .error e) : t.at? place = none := by
  rw [FileTree.at?, h]
  rfl

/-- Something can be made where nothing above is in the way. -/
theorem place_meets (p : Path) (new : FileTree) :
    Meets (Change.place p new) t
      (fun _ after => t.faultAbove? p.segments = none ∧ after = put new p.segments t)
      fun e after => after = t ∧ ∃ fault, t.faultAbove? p.segments = some fault ∧
        e = .file ⟨fault, p.text⟩ := by
  unfold Meets Change.place
  cases hfault : t.faultAbove? p.segments with
  | none => exact ⟨rfl, rfl⟩
  | some fault => exact ⟨rfl, fault, rfl, rfl⟩

/-- A directory can be made where nothing stands and nothing above is in the way. -/
theorem makeDirectory_meets (steps : FileOperation → Prop) (hop : steps (.makeDirectory p))
    (hnone : t.at? p.segments = none) :
    Meets (makeDirectory refuses p) t
      (fun _ after => t.faultAbove? p.segments = none ∧ after = put (.directory []) p.segments t)
      fun e after => after = t ∧ (Refused refuses steps t ∧ e.isMissing = false ∨
        ∃ fault, t.faultAbove? p.segments = some fault ∧ e = .file ⟨fault, p.text⟩) := by
  refine .bind ((ask_meets hop).mono_failed fun _ _ h => ⟨h.1, .inl h.2⟩) ?_
  intro _ after hafter
  subst hafter
  refine .get ?_
  rw [hnone, Option.isSome_none, if_neg Bool.false_ne_true]
  exact (place_meets p _).mono_failed fun _ _ h => ⟨h.1, .inr h.2⟩

/-! ## Making directories -/

/-- In a directory that is there, a directory is made unless the host refuses. -/
theorem makeDirectory_of_directory (hop : steps (.makeDirectory p)) (hp : p.segments = above ++ [name])
    (missing : follow [] t p.segments = .error .missing)
    (directory : follow [] t above = .ok (.directory es)) :
    Meets (makeDirectory refuses p) t (fun _ after => after = put (.directory []) p.segments t)
      fun e after => after = t ∧ Refused refuses steps t ∧ e.isMissing = false := by
  have hfault : t.faultAbove? p.segments = none := by
    rw [hp]
    exact FileTree.faultAbove?_of_directory directory
  refine (makeDirectory_meets steps hop (at?_of_error missing)).mono (fun _ _ h => h.2) ?_
  rintro e after ⟨hafter, hrefused | ⟨fault, hsome, -⟩⟩
  · exact ⟨hafter, hrefused⟩
  · exact absurd (hsome.symm.trans hfault) nofun

/-- Is the tree as it was, or has a missing directory been made on the way to a place? -/
def OnTheWay (place : List String) (before after : FileTree) : Prop :=
  after = before ∨ ∃ way, way <+: place ∧ follow [] before way = .error .missing ∧
    after = put (.directory []) way before

/-- What is on the way to a place is on the way to the places below it. -/
theorem OnTheWay.concat {before after : FileTree} (h : OnTheWay place before after) (name : String) :
    OnTheWay (place ++ [name]) before after :=
  h.imp_right fun ⟨way, hway, hmade⟩ => ⟨way, hway.trans (List.prefix_append _ _), hmade⟩

/-- A missing directory is made with those above it, unless the host refuses one of the operations: then
some of them may have been made. -/
theorem makeDirectories_meets {anchor : Anchor} {segments : List String} (down : ".." ∉ segments)
    (hops : ∀ way, way <+: segments.reverse → steps (.makeDirectory ⟨anchor, way⟩))
    (missing : follow [] t segments.reverse = .error .missing) :
    Meets (makeDirectories refuses anchor segments) t
      (fun _ after => after = put (.directory []) segments.reverse t)
      fun _ after => OnTheWay segments.reverse t after ∧ Refused refuses steps after := by
  induction segments with
  | nil => cases missing
  | cons name above ih =>
    let p : Path := ⟨anchor, above.reverse ++ [name]⟩
    have hp : (⟨anchor, (name :: above).reverse⟩ : Path) = p := by rw [List.reverse_cons]
    rw [List.reverse_cons] at missing hops ⊢
    have hdown : ".." ∉ above.reverse ++ [name] := by simpa [and_comm] using down
    have hop : steps (.makeDirectory p) := hops _ List.prefix_rfl
    have hnone : t.at? p.segments = none := at?_of_error missing
    rw [makeDirectories, hp]
    rcases FileTree.follow_of_missing hdown missing with hmissing | ⟨es, hdirectory⟩
    · have hfault := FileTree.faultAbove?_of_error (s := name) hmissing
      refine .tryCatch ((makeDirectory_meets steps hop hnone).mono (fun _ _ h => ?_) fun _ _ h => h) ?_
      · exact absurd (h.1.symm.trans hfault) nofun
      rintro e t ⟨rfl, ⟨hrefused, hother⟩ | ⟨fault, hfault', rfl⟩⟩
      · rw [if_neg (by simp [hother])]
        refine (unlessThere_meets hnone e).mono (fun _ _ h => h.elim) ?_
        rintro _ _ rfl
        exact ⟨.inl rfl, hrefused⟩
      obtain rfl : fault = .missing := Option.some.inj (hfault'.symm.trans hfault)
      have hismissing : (ChangeError.file ⟨.missing, p.text⟩).isMissing = true := rfl
      rw [if_pos hismissing]
      -- The directory above is made first, and then this one in it.
      have habove := ih (List.not_mem_of_not_mem_cons down)
        (fun way hway => hops way (hway.trans (List.prefix_append _ _))) hmissing
      refine .bind (habove.mono_failed fun _ _ h => ⟨h.1.concat name, h.2⟩) ?_
      rintro _ made rfl
      have hplace : ".." ∉ above.reverse := fun hmem => hdown (List.mem_append_left _ hmem)
      have hname : ".." ∉ [name] := fun hmem => hdown (List.mem_append_right _ hmem)
      have hdirectory : follow [] (put (.directory []) above.reverse t) above.reverse = .ok (.directory []) :=
        FileTree.follow_put hplace
      have hmissing' : follow [] (put (.directory []) above.reverse t) p.segments = .error .missing := by
        rw [FileTree.follow_append_of_ok hname hdirectory, FileTree.follow_empty hname]
      refine .tryCatch ((makeDirectory_of_directory hop rfl hmissing' hdirectory).mono (fun _ _ h => ?_)
        fun _ _ h => h) ?_
      · rw [h, FileTree.put_append_put_empty _ hplace hmissing]
      · rintro e _ ⟨rfl, hrefused, -⟩
        refine (unlessThere_meets (at?_of_error hmissing') e).mono (fun _ _ h => h.elim) ?_
        rintro _ _ rfl
        exact ⟨.inr ⟨above.reverse, List.prefix_append _ _, hmissing, rfl⟩, hrefused⟩
    · refine .tryCatch (makeDirectory_of_directory hop rfl missing hdirectory) ?_
      rintro e _ ⟨rfl, hrefused, hother⟩
      rw [if_neg (by simp [hother])]
      refine (unlessThere_meets hnone e).mono (fun _ _ h => h.elim) ?_
      rintro _ _ rfl
      exact ⟨.inl rfl, hrefused⟩

/-- Below a file no directory can be made, and nothing is changed. -/
theorem makeDirectories_of_notDirectory {anchor : Anchor} {segments : List String} (down : ".." ∉ segments)
    (h : follow [] t segments.reverse = .error .notDirectory) :
    Meets (makeDirectories refuses anchor segments) t (fun _ _ => False) fun _ after => after = t := by
  cases segments with
  | nil => cases h
  | cons name above =>
    let p : Path := ⟨anchor, above.reverse ++ [name]⟩
    have hp : (⟨anchor, (name :: above).reverse⟩ : Path) = p := by rw [List.reverse_cons]
    rw [List.reverse_cons] at h
    have hdown : ".." ∉ above.reverse ++ [name] := by simpa [and_comm] using down
    have hnone : t.at? p.segments = none := at?_of_error h
    have hfault := FileTree.faultAbove?_of_notDirectory hdown h
    rw [makeDirectories, hp]
    refine .tryCatch ((makeDirectory_meets (fun _ => True) trivial hnone).mono (fun _ _ h => ?_)
      fun _ _ h => h) ?_
    · exact absurd (h.1.symm.trans hfault) nofun
    rintro e _ ⟨rfl, hwhy⟩
    have hother : e.isMissing = false := by
      rcases hwhy with ⟨-, hother⟩ | ⟨fault, hfault', rfl⟩
      · exact hother
      · obtain rfl : fault = .notDirectory := Option.some.inj (hfault'.symm.trans hfault)
        rfl
    rw [if_neg (by simp [hother])]
    exact unlessThere_meets hnone e

/-! ## Writing -/

/-- In a directory that is there, a missing file is made unless the host refuses. -/
theorem openFile_meets (hop : steps (.openFile p)) (hp : p.segments = above ++ [name])
    (missing : follow [] t p.segments = .error .missing)
    (directory : follow [] t above = .ok (.directory es)) :
    Meets (openFile refuses p) t (fun _ after => after = put (.file []) p.segments t)
      fun _ after => after = t ∧ Refused refuses steps t := by
  refine .bind ((ask_meets hop).mono_failed fun _ _ h => ⟨h.1, h.2.1⟩) ?_
  intro _ after hafter
  subst hafter
  refine .get ?_
  rw [at?_of_error missing, Option.any_none, if_neg Bool.false_ne_true]
  refine (place_meets p _).mono (fun _ _ h => h.2) ?_
  rintro e _ ⟨-, fault, hfault, -⟩
  rw [hp, FileTree.faultAbove?_of_directory directory] at hfault
  cases hfault

/-- The bytes are put into a file unless the host refuses. -/
theorem write_meets (hop : steps (.write p)) (bytes : List UInt8) :
    Meets (write refuses p bytes) t (fun _ after => after = put (.file bytes) p.segments t)
      fun _ after => after = t ∧ Refused refuses steps t := by
  refine .bind ((ask_meets hop).mono_failed fun _ _ h => ⟨h.1, h.2.1⟩) ?_
  rintro _ _ rfl
  rfl

/-! ## Removing -/

/-- Asking keeps everything. -/
theorem ask_keeps {op : FileOperation} (hop : steps op) :
    Meets (ask refuses op) t (fun _ after => after = t)
      fun _ after => Keeps place t after ∧ Refused refuses steps after := by
  refine (ask_meets hop).mono_failed ?_
  rintro _ _ ⟨rfl, hrefused, -⟩
  exact ⟨.refl _ _, hrefused⟩

/-- A directory is removed when its entries have been, and everything else is left as it is if that is so
for them. -/
theorem remove_directory_meets {place : List String} (hops : ∀ op, Removes p (.directory es) op → steps op)
    (hentries : ∀ t, Meets (removeEntries refuses p es) t (fun _ after => Keeps place t after)
      fun _ after => Keeps place t after ∧ Refused refuses steps after) :
    Meets (remove refuses p (.directory es)) t
      (fun _ after => ∃ removed, Keeps place t removed ∧ after = erase p.segments removed)
      fun _ after => Keeps place t after ∧ Refused refuses steps after := by
  rw [remove]
  refine .bind (ask_keeps (hops _ .list)) ?_
  rintro _ t rfl
  refine .bind (hentries t) fun _ removed hremoved => ?_
  refine .bind ((ask_keeps (hops _ .removeDirectory)).mono_failed fun _ _ h => ⟨hremoved.trans h.1, h.2⟩) ?_
  rintro _ removed rfl
  exact ⟨removed, hremoved, rfl⟩

mutual

/-- Whatever is removed at a place or below it, everything else is left as it is, also when the host refuses
one of the operations. -/
theorem remove_meets (place : List String) (old t : FileTree) (p : Path) (h : place <+: p.segments)
    (hops : ∀ op, Removes p old op → steps op) :
    Meets (remove refuses p old) t (fun _ after => Keeps place t after)
      fun _ after => Keeps place t after ∧ Refused refuses steps after := by
  cases old with
  | file bytes =>
    rw [remove]
    refine .bind (ask_keeps (hops _ .removeFile)) ?_
    rintro _ _ rfl
    exact .erase h
  | directory es =>
    refine (remove_directory_meets hops fun t => ?_).mono ?_ fun _ _ h => h
    · exact removeEntries_meets place es t p h fun _ hmem op hop => hops op (.entry hmem hop)
    · rintro _ _ ⟨removed, hremoved, rfl⟩
      exact hremoved.trans (.erase h)

/-- The same holds of the entries of a directory at a place or below it. -/
theorem removeEntries_meets (place : List String) (es : List (String × FileTree)) (t : FileTree) (p : Path)
    (h : place <+: p.segments) (hops : ∀ e ∈ es, ∀ op, Removes (p.below [e.1]) e.2 op → steps op) :
    Meets (removeEntries refuses p es) t (fun _ after => Keeps place t after)
      fun _ after => Keeps place t after ∧ Refused refuses steps after := by
  cases es with
  | nil =>
    rw [removeEntries]
    exact .refl place t
  | cons e es =>
    obtain ⟨name, inner⟩ := e
    rw [removeEntries]
    obtain ⟨hfirst, hrest⟩ := List.forall_mem_cons.mp hops
    refine .bind (remove_meets place inner t (p.below [name]) (h.trans (List.prefix_append _ _)) hfirst)
      fun _ removed hremoved => ?_
    exact (removeEntries_meets place es removed p h hrest).mono (fun _ _ h' => hremoved.trans h')
      fun _ _ h' => ⟨hremoved.trans h'.1, h'.2⟩

end

/-- A directory that has been removed is missing, in a directory that is still there. -/
theorem removeDirectory_meets (refuses : Refusals) (old : List (String × FileTree))
    (hops : ∀ op, Removes p (.directory old) op → steps op) (hp : p.segments = above ++ [name])
    (down : ".." ∉ p.segments) (directory : follow [] t above = .ok (.directory es)) :
    Meets (remove refuses p (.directory old)) t
      (fun _ after => Keeps p.segments t after ∧ follow [] after p.segments = .error .missing)
      fun _ after => Keeps p.segments t after ∧ Refused refuses steps after := by
  have habove : ".." ∉ above := fun hmem => down (hp ▸ List.mem_append_left _ hmem)
  refine (remove_directory_meets hops fun t => removeEntries_meets p.segments old t p List.prefix_rfl
    fun _ hmem op hop => hops op (.entry hmem hop)).mono ?_ fun _ _ h => h
  rintro _ _ ⟨removed, hremoved, rfl⟩
  obtain ⟨es', hdirectory⟩ := (hp ▸ hremoved : Keeps (above ++ [name]) t removed).directory habove directory
  refine ⟨hremoved.trans (.erase List.prefix_rfl), ?_⟩
  rw [hp] at down ⊢
  exact FileTree.follow_erase down hdirectory

end Change

end Specifiers
