import Specifiers.Proofs.Result
import Specifiers.Proofs.Value
import Specifiers.Toml.Document

/-!
# The keys of a document

Whatever a document says, no table that is read from it has a key twice, at any depth: every statement
changes the tables so far by writes at keys, and every value that is put into them is read by the same
kind of writes.
-/

namespace Specifiers

namespace Toml

open Value (Distinct distinct_empty)

/-! ## Changes -/

/-- Does a change keep the keys of tables different? -/
def Keeps (change : Table Value → Except Reason (Table Value)) : Prop :=
  ∀ t t', Distinct (.table t) → change t = .ok t' → Distinct (.table t')

/-- What leaves entries as they are keeps their keys different. -/
theorem keeps_ok : Keeps .ok := by
  intro t t' h ht
  exact Except.ok.inj ht ▸ h

/-- A change further down keeps them different when it does so there. -/
theorem keeps_changeAt {intoLists : Bool} {change : Table Value → Except Reason (Table Value)}
    (h : Keeps change) (names : Key) : Keeps (changeAt intoLists change names) := by
  induction names with
  | nil => exact h
  | cons name names ih =>
    intro t t' ht hchange
    rw [changeAt] at hchange
    split at hchange
    · obtain ⟨inner, hinner, rfl⟩ := map_eq_ok_iff.mp hchange
      exact ht.insert (ih _ _ distinct_empty hinner)
    · next old hfind =>
      obtain ⟨inner, hinner, rfl⟩ := map_eq_ok_iff.mp hchange
      exact ht.insert (ih _ _ (ht.of_find? hfind) hinner)
    · next items hfind =>
      split at hchange
      · next old hlast =>
        -- The last item of a list is replaced.
        have hitems := ht.of_find? hfind
        obtain ⟨inner, hinner, rfl⟩ := map_eq_ok_iff.mp hchange
        refine ht.insert (.list fun v hv => ?_)
        rcases List.mem_append.mp hv with hv | hv
        · exact hitems.of_mem (List.dropLast_subset _ hv)
        · obtain rfl := List.mem_singleton.mp hv
          exact ih _ _ (hitems.of_mem (List.mem_of_getLast? hlast)) hinner
      · simp at hchange
    · simp at hchange

/-- Putting a new value into a table keeps them different. -/
theorem keeps_putNew {taken : Reason} {name : String} {value : Value} (h : Distinct value) :
    Keeps (putNew taken name value) := by
  intro t t' ht hput
  rw [putNew] at hput
  split at hput
  · simp at hput
  · exact Except.ok.inj hput ▸ ht.insert h

/-! ## Values -/

/-- A date is no table. -/
theorem distinct_of_dated? {cs rest : List Char} {v : Value} (h : dated? cs = some (some v, rest)) :
    Distinct v := by
  obtain ⟨⟨⟨year, month, day⟩, afterDate⟩, -, h⟩ := Option.map_eq_some_iff.mp h
  dsimp only at h
  split at h <;> split at h <;> simp at h <;> obtain ⟨rfl, -⟩ := h <;> exact .moment _ _

/-- A time is no table. -/
theorem distinct_of_time? {cs rest : List Char} {v : Value} (h : time? cs = some (v, rest)) :
    Distinct v := by
  obtain ⟨after, -, h⟩ := Option.map_eq_some_iff.mp h
  obtain ⟨rfl, -⟩ := Prod.mk.inj h
  exact .moment _ _

/-- A whole number is no table. -/
theorem distinct_of_wholeNumber {negative : Bool} {digits : List Char} {v : Value}
    (h : wholeNumber negative digits = .ok v) : Distinct v := by
  rw [wholeNumber] at h
  split at h
  · simp at h
  · exact Except.ok.inj h ▸ .integer _

/-- A number in decimal is no table, whichever of its forms it has. -/
theorem distinct_of_decimalNumber? {cs rest : List Char} {v : Value}
    (h : decimalNumber? cs = some (.ok v, rest)) : Distinct v := by
  obtain ⟨⟨whole, afterWhole⟩, -, h⟩ := Option.map_eq_some_iff.mp h
  dsimp only at h
  split at h
  · exact distinct_of_wholeNumber (Prod.mk.inj h).1
  · exact Except.ok.inj (Prod.mk.inj h).1 ▸ .float _

/-- Neither is any other number. -/
theorem distinct_of_number? {cs rest : List Char} {v : Value}
    (h : number? cs = some (.ok v, rest)) : Distinct v := by
  rw [number?] at h
  split at h
  · exact Except.ok.inj (Prod.mk.inj (Option.some.inj h)).1 ▸ .integer _
  · split at h
    · next hdecimal => exact distinct_of_decimalNumber? (hdecimal.trans h)
    · obtain ⟨r, -, h⟩ := Option.map_eq_some_iff.mp h
      exact Except.ok.inj (Prod.mk.inj h).1 ▸ .float _

/-- A number, a moment, a truth value and a text have no tables. -/
theorem distinct_of_readPlain {cs rest : List Char} {v : Value} (h : readPlain cs = .ok (v, rest)) :
    Distinct v := by
  rw [readPlain.eq_def] at h
  split at h
  · obtain ⟨r, -, h⟩ := map_eq_ok_iff.mp h
    exact (Prod.mk.inj h).1 ▸ .text _
  · obtain ⟨r, -, h⟩ := map_eq_ok_iff.mp h
    exact (Prod.mk.inj h).1 ▸ .text _
  · exact (Prod.mk.inj (Except.ok.inj h)).1 ▸ .bool true
  · exact (Prod.mk.inj (Except.ok.inj h)).1 ▸ .bool false
  -- the kinds the first characters do not tell: dates before times before numbers
  · split at h
    · next hdated =>
      obtain ⟨rfl, rfl⟩ := Prod.mk.inj (Except.ok.inj h)
      exact distinct_of_dated? hdated
    · simp [stop] at h
    · split at h
      · next htime =>
        obtain rfl := Except.ok.inj h
        exact distinct_of_time? htime
      · split at h
        · next hnumber =>
          obtain ⟨v', rfl, hv⟩ := map_eq_ok_iff.mp h
          obtain ⟨rfl, rfl⟩ := Prod.mk.inj hv
          exact distinct_of_number? hnumber
        · simp [stop] at h

/-- Putting a value into a table in line keeps the keys different. -/
theorem distinct_put {t t' : InlineTable} {key : Key} {value : Value}
    (ht : Distinct (.table t.entries)) (hv : Distinct value) (h : t.put key value = .ok t') :
    Distinct (.table t'.entries) := by
  rw [InlineTable.put] at h
  split at h
  · simp at h
  · obtain ⟨entries, hentries, rfl⟩ := map_eq_ok_iff.mp h
    exact keeps_changeAt (keeps_putNew hv) _ _ _ ht hentries

/-- What the readers of values give within a bound has different keys in its tables. -/
structure ReadsDistinct (bound : Nat) : Prop where
  value : ∀ {cs rest v}, readValue bound cs = .ok (v, rest) → Distinct v
  items : ∀ {before cs rest v}, (∀ item ∈ before, Distinct item) →
    readItems bound before cs = .ok (v, rest) → Distinct v
  entries : ∀ {t cs rest v}, Distinct (.table t.entries) →
    readEntries bound t cs = .ok (v, rest) → Distinct v
  pair : ∀ {cs key rest v}, readPair bound cs = .ok ((key, v), rest) → Distinct v

/-- Whatever value is read, the keys of its tables are different. -/
theorem readsDistinct (bound : Nat) : ReadsDistinct bound := by
  -- The readers call each other with a smaller bound.
  induction bound with
  | zero =>
    constructor <;> intros <;> rename_i h <;>
      simp [readValue, readItems, readEntries, readPair, stop] at h
  | succ bound ih =>
    constructor
    case value =>
      intro cs rest v h
      rw [readValue.eq_def] at h
      dsimp only at h
      split at h
      -- A list or a table is empty, or its first item is read with the bound that is left.
      · split at h
        · obtain ⟨rfl, -⟩ := Prod.mk.inj (Except.ok.inj h)
          exact .list (by simp)
        · exact ih.items (by simp) h
        · simp at h
      · split at h
        · obtain ⟨rfl, -⟩ := Prod.mk.inj (Except.ok.inj h)
          exact distinct_empty
        · exact ih.entries distinct_empty h
      · exact distinct_of_readPlain h
    case items =>
      intro before cs rest v hbefore h
      rw [readItems] at h
      obtain ⟨⟨value, rest'⟩, hvalue, h⟩ := bind_eq_ok_iff.mp h
      have hitems : ∀ item ∈ value :: before, Distinct item :=
        List.forall_mem_cons.mpr ⟨ih.value hvalue, hbefore⟩
      have hdone : Distinct (.list (value :: before).reverse) :=
        .list fun item hitem => hitems item (List.mem_reverse.mp hitem)
      obtain ⟨blanks, -, h⟩ := bind_eq_ok_iff.mp h
      split at h
      · obtain ⟨rfl, -⟩ := Prod.mk.inj (Except.ok.inj h)
        exact hdone
      · obtain ⟨blanks, -, h⟩ := bind_eq_ok_iff.mp h
        split at h
        · obtain ⟨rfl, -⟩ := Prod.mk.inj (Except.ok.inj h)
          exact hdone
        · exact ih.items hitems h
      · simp [stop] at h
    case entries =>
      intro t cs rest v ht h
      rw [readEntries] at h
      obtain ⟨⟨⟨key, value⟩, rest'⟩, hpair, h⟩ := bind_eq_ok_iff.mp h
      dsimp only at h
      split at h
      · simp [stop] at h
      · next t' hput =>
        have ht' := distinct_put ht (ih.pair hpair) hput
        split at h
        · obtain ⟨rfl, -⟩ := Prod.mk.inj (Except.ok.inj h)
          exact ht'
        · exact ih.entries ht' h
        · simp [stop] at h
    case pair =>
      intro cs key rest v h
      rw [readPair] at h
      obtain ⟨⟨key', rest'⟩, -, h⟩ := bind_eq_ok_iff.mp h
      dsimp only at h
      split at h
      · obtain ⟨⟨value, rest''⟩, hvalue, h⟩ := bind_eq_ok_iff.mp h
        obtain ⟨hpair, -⟩ := Prod.mk.inj (Except.ok.inj h)
        obtain ⟨-, rfl⟩ := Prod.mk.inj hpair
        exact ih.value hvalue
      · simp [stop] at h

/-! ## Statements -/

namespace Draft

variable {d d' : Draft} {key : Key}

/-- A change to the table at a key keeps the keys of a document different. -/
theorem distinct_change {f : Table Value → Except Reason (Table Value)} (hf : Keeps f)
    (hd : Distinct (.table d.entries)) (h : d.change key f = .ok d') :
    Distinct (.table d'.entries) := by
  obtain ⟨entries, hentries, rfl⟩ := map_eq_ok_iff.mp h
  exact keeps_changeAt hf key _ _ hd hentries

/-- Opening a table adds a key only where it is new. -/
theorem distinct_openTable (hd : Distinct (.table d.entries)) (h : d.openTable key = .ok d') :
    Distinct (.table d'.entries) := by
  rw [openTable] at h
  split at h
  · simp at h
  · let opened : Draft := { d with header := key, declared := key :: d.declared }
    exact distinct_change (d := opened) keeps_ok hd h

/-- An item that is added to a list is empty. -/
theorem keeps_addItem (name : String) : Keeps (addItem name) := by
  intro t t' ht h
  rw [addItem] at h
  split at h
  · next items hfind =>
    have hitems := ht.of_find? hfind
    refine Except.ok.inj h ▸ ht.insert (.list fun v hv => ?_)
    rcases List.mem_append.mp hv with hv | hv
    · exact hitems.of_mem hv
    · exact List.mem_singleton.mp hv ▸ distinct_empty
  · simp at h
  · exact Except.ok.inj h ▸ ht.insert (.list fun v hv => List.mem_singleton.mp hv ▸ distinct_empty)

/-- So does opening one more item of a list of tables. -/
theorem distinct_openItem (hd : Distinct (.table d.entries)) (h : d.openItem key = .ok d') :
    Distinct (.table d'.entries) := by
  rw [openItem] at h
  split at h
  · simp at h
  · let opened : Draft :=
      { d.forget key with header := key, declared := key :: (d.forget key).declared }
    exact distinct_change (d := opened) (keeps_addItem _) hd h

/-- Passing through tables declares them and changes nothing. -/
theorem entries_passThrough {keys : List Key} (h : d.passThrough keys = .ok d') :
    d'.entries = d.entries := by
  induction keys generalizing d with
  | nil => exact Except.ok.inj h ▸ rfl
  | cons key keys ih =>
    rw [passThrough] at h
    split at h
    · simp at h
    · exact ih (d := { d with pending := key :: d.pending }) h

/-- Putting a value into a document keeps the keys different. -/
theorem distinct_put {value : Value} (hd : Distinct (.table d.entries)) (hv : Distinct value)
    (h : d.put key value = .ok d') : Distinct (.table d'.entries) := by
  rw [put] at h
  obtain ⟨d₁, hpass, h⟩ := bind_eq_ok_iff.mp h
  dsimp only at h
  split at h
  · simp at h
  · obtain ⟨d₂, hchange, h⟩ := bind_eq_ok_iff.mp h
    rw [← entries_passThrough hpass] at hd
    have hd₂ := distinct_change (keeps_putNew hv) hd hchange
    split at h <;> exact Except.ok.inj h ▸ hd₂

end Draft

/-- A result has nothing to do with the rest of the text, which only complaints tell. -/
theorem atRest_eq_ok_iff {α : Type} {rest : List Char} {e : Except Reason α} {a : α} :
    atRest rest e = .ok a ↔ e = .ok a := by
  cases e <;> simp [atRest, Except.mapError]

/-- A statement keeps the keys of a document different. -/
theorem distinct_of_readStatement {d d' : Draft} {cs rest : List Char}
    (hd : Distinct (.table d.entries)) (h : readStatement d cs = .ok (d', rest)) :
    Distinct (.table d'.entries) := by
  rw [readStatement.eq_def] at h
  split at h
  · obtain ⟨⟨key, rest₁⟩, -, h⟩ := bind_eq_ok_iff.mp h
    obtain ⟨d₁, hopen, h⟩ := bind_eq_ok_iff.mp h
    -- A header settles what pairs have declared so far, which changes no entries.
    have hd₁ := Draft.distinct_openItem (d := d.settle) hd (atRest_eq_ok_iff.mp hopen)
    split at h
    · exact (Prod.mk.inj (Except.ok.inj h)).1 ▸ hd₁
    · simp [stop] at h
  · obtain ⟨⟨key, rest₁⟩, -, h⟩ := bind_eq_ok_iff.mp h
    obtain ⟨d₁, hopen, h⟩ := bind_eq_ok_iff.mp h
    have hd₁ := Draft.distinct_openTable (d := d.settle) hd (atRest_eq_ok_iff.mp hopen)
    split at h
    · exact (Prod.mk.inj (Except.ok.inj h)).1 ▸ hd₁
    · simp [stop] at h
  · split at h
    · obtain ⟨⟨⟨key, value⟩, rest₁⟩, hpair, h⟩ := bind_eq_ok_iff.mp h
      obtain ⟨d₁, hput, h⟩ := bind_eq_ok_iff.mp h
      have hd₁ := Draft.distinct_put hd ((readsDistinct _).pair hpair) (atRest_eq_ok_iff.mp hput)
      exact (Prod.mk.inj (Except.ok.inj h)).1 ▸ hd₁
    · simp [stop] at h
  · exact (Prod.mk.inj (Except.ok.inj h)).1 ▸ hd

/-- So do the statements of a document, one after the other. -/
theorem distinct_of_readStatements {d : Draft} {t : Table Value} {bound : Nat} {cs : List Char}
    (hd : Distinct (.table d.entries)) (h : readStatements d bound cs = .ok t) :
    Distinct (.table t) := by
  induction bound generalizing d cs with
  | zero => exact Except.ok.inj h ▸ hd
  | succ bound ih =>
    rw [readStatements] at h
    split at h
    · exact Except.ok.inj h ▸ hd
    · exact ih hd h
    · next c rest _ _ =>
      split at h <;> obtain ⟨⟨d₁, rest₁⟩, hread, h⟩ := bind_eq_ok_iff.mp h
      case' isTrue => have hd₁ : Distinct (.table d₁.entries) := by cases hread; exact hd
      case' isFalse => have hd₁ := distinct_of_readStatement hd hread
      -- What follows a statement or a remark on its line is read with the document so far.
      all_goals
        obtain ⟨rest₂, -, h⟩ := bind_eq_ok_iff.mp h
        split at h
        · exact Except.ok.inj h ▸ hd₁
        · exact ih hd₁ h
        · simp [stop] at h

/-- The tables of a document have different keys. -/
theorem distinct_of_ofBytes {bytes : List UInt8} {t : Table Value} (h : ofBytes bytes = .ok t) :
    Distinct (.table t) := by
  obtain ⟨text, -, h⟩ := bind_eq_ok_iff.mp h
  rw [parse] at h
  exact distinct_of_readStatements distinct_empty (mapError_eq_ok_iff.mp h)

end Toml

end Specifiers
