import Specifiers.Console.Terminal
import Specifiers.Proofs.Command.Unique
import Specifiers.Proofs.Console.Line

/-!
# Whether a listing is put out as it is

As text, `extract` puts out the path and the specifiers of a file as messages, in which they are escaped.
They come out as they are, whatever brackets and tags are in them, but for three things: a name of an emoji
between colons, a backslash before a bracket with which no tag starts, and backslashes at the end. Besides, a
line can be too long for the display, or have characters that cannot be put out (`output_extract_eq_iff`).
-/

namespace Specifiers

namespace Command

open Console (Inline IsVerbatim Message endSlashes joinLines)

/-! ## What is meant to be put out -/

/-- The lines of a listing with its texts as they are. -/
def plainLines (label : String) (unique : Bool) (l : Listing) : List String :=
  (label ++ if l.isModule then " (module)" else " (script)") ::
    ((if (shownSpecifiers unique l).isEmpty then ["  no specifiers"] else []) ++
      (shownSpecifiers unique l).map fun s => "  " ++ s)

/-- Are the texts of a listing put out as they are? -/
def ListsVerbatim (label : String) (specifiers : List String) : Prop :=
  (IsVerbatim label ∧ endSlashes label.toList ≤ 1) ∧
    ∀ s ∈ specifiers, IsVerbatim s ∧ endSlashes s.toList ≠ 1

/-- Is half a surrogate pair spelled by an escape in a text? -/
def spellsHalf : List Char → Bool
  | '\\' :: 'u' :: cs =>
    (match Grammar.Escape.unicode cs with
      | .ok (code, _) => 0xD800 ≤ code && code ≤ 0xDFFF
      | .error _ => false) || spellsHalf cs
  | _ :: cs => spellsHalf cs
  | [] => false

/-- Has a file a listing in which all is text that can be put out? -/
structure HasListing (host : Host) (file encoding : String) (l : Listing) : Prop where
  listed : (analyze host encoding (Path.ofString file)).result = .ok l
  path : Inline (Path.ofString file).text.toList
  specifiers : ∀ s ∈ l.specifiers, Inline s.toList
  /-- Half a surrogate pair is no character, and a specifier that holds one cannot be put out at all. Only
  escapes spell it. Where they do, a replacement character stands for it in a listing, or with another half
  one of the characters beyond those of two bytes. -/
  paired : ∀ text, Analysis.textAt host encoding (Path.ofString file) = .ok text →
    spellsHalf text.toList = false ∨
      ∀ s ∈ l.specifiers, ∀ c ∈ s.toList, c ≠ Utf8.replacement ∧ c.toNat < 0x10000

/-! ## The messages -/

variable {host : Host} {file encoding label : String} {unique : Bool} {l : Listing}

/-- The messages for a listing, with what they are shown as and the texts that are meant. -/
def listingEntries (label : String) (unique : Bool) (l : Listing) : List Message :=
  .heading label l.isModule ::
    ((if (shownSpecifiers unique l).isEmpty then [.noSpecifiers] else []) ++
      (shownSpecifiers unique l).map .specifier)

/-- Each specifier that is shown is one of the listing. -/
theorem mem_specifiers_of_shown {s : String} (h : s ∈ shownSpecifiers unique l) : s ∈ l.specifiers := by
  cases unique with
  | true => exact l.unique_sublist.subset h
  | false => exact h

theorem markup_listingEntries (label : String) (unique : Bool) (l : Listing) :
    (listingEntries label unique l).map Message.markup = listingMessages label unique l := by
  rw [listingEntries, listingMessages]
  split <;> simp [Message.heading, Message.specifier, Message.noSpecifiers, Console.heading]

theorem text_listingEntries (label : String) (unique : Bool) (l : Listing) :
    (listingEntries label unique l).map Message.text = (plainLines label unique l).map String.toList := by
  have hkind : Console.kindText l.isModule =
      (if l.isModule then " (module)" else " (script)").toList := rfl
  rw [listingEntries, plainLines]
  split <;> simp [Message.heading, Message.specifier, Message.noSpecifiers, hkind]

/-- The messages for a listing without control characters can be shown. -/
theorem renders_listingEntries (d : Console.Display) (unique : Bool) (hlabel : Inline label.toList)
    (hspecifiers : ∀ s ∈ l.specifiers, Inline s.toList) :
    ∀ m ∈ listingEntries label unique l, m.Renders d := by
  refine List.forall_mem_cons.mpr ⟨Message.renders_heading hlabel l.isModule, ?_⟩
  refine List.forall_mem_append.mpr ⟨fun m hm => ?_, fun m hm => ?_⟩
  · split at hm
    · rw [List.mem_singleton.mp hm]
      exact Message.renders_noSpecifiers
    · cases hm
  · obtain ⟨s, hs, rfl⟩ := List.mem_map.mp hm
    exact Message.renders_specifier (hspecifiers s (mem_specifiers_of_shown hs))

/-- They are shown as they are exactly when the texts of the listing are put out as they are. -/
theorem shown_listingEntries_iff (hlabel : Inline label.toList)
    (hspecifiers : ∀ s ∈ l.specifiers, Inline s.toList) :
    (∀ m ∈ listingEntries label unique l, m.shown = m.text) ↔
      ListsVerbatim label (shownSpecifiers unique l) := by
  have hnone : ∀ m ∈ (if (shownSpecifiers unique l).isEmpty then [Message.noSpecifiers] else []),
      m.shown = m.text := by
    split
    · exact List.forall_mem_singleton.mpr rfl
    · exact nofun
  rw [listingEntries, List.forall_mem_cons, List.forall_mem_append, and_iff_right hnone,
    List.forall_mem_map, Message.shown_heading_eq_iff hlabel, ListsVerbatim]
  exact and_congr_right' (forall₂_congr fun s hs =>
    Message.shown_specifier_eq_iff (hspecifiers s (mem_specifiers_of_shown hs)))

/-! ## The output -/

/-- The texts of the messages, joined, are the lines of the listing. -/
theorem joinLines_listingEntries (label : String) (unique : Bool) (l : Listing) :
    String.ofList (joinLines ((listingEntries label unique l).map Message.text)) =
      String.join ((plainLines label unique l).map (· ++ "\n")) := by
  rw [text_listingEntries, ← String.toList_inj, String.toList_ofList, String.toList_join, joinLines,
    List.flatMap_map, List.flatMap_map]
  exact List.flatMap_congr fun s _ => (String.toList_append (t := "\n")).symm

/-- Messages make an outcome that succeeds, with a text, exactly when they are printed as it. -/
theorem printing_eq_iff (messages : List String) (text : String) :
    ((Outcome.printing host messages).exit = 0 ∧ (Outcome.printing host messages).error = none ∧
      (Outcome.printing host messages).output = text) ↔
      Console.lines host.display messages = (text, none) := by
  rw [Outcome.printing.eq_def]
  generalize Console.lines host.display messages = printed
  obtain ⟨output, _ | e⟩ := printed <;> simp

/-- As text, `extract` prints the messages for the listing. -/
theorem HasListing.extract_eq (h : HasListing host file encoding l) (unique : Bool) :
    extract host file false unique encoding =
      (Outcome.printing host
        ((listingEntries (Path.ofString file).text unique l).map Message.markup)).noting
        (analyze host encoding (Path.ofString file)).notices := by
  simp only [extract, h.listed, Bool.false_eq_true, if_false, markup_listingEntries]

/-- For a file with a listing, `extract` as text succeeds and puts out the path and the specifiers as they are
exactly when no emoji is named in them, no backslash stands in them before a bracket with which no tag starts,
no specifier ends with exactly one backslash and the path does not end with two or more, and the display shows
each line. It succeeds in any case if the display refuses nothing. -/
theorem output_extract_eq_iff (h : HasListing host file encoding l) (unique : Bool) :
    let o := extract host file false unique encoding
    let plain := plainLines (Path.ofString file).text unique l
    (o.exit = 0 ∧ o.error = none ∧ o.output = String.join (plain.map (· ++ "\n")) ↔
      ListsVerbatim (Path.ofString file).text (shownSpecifiers unique l) ∧
        ∀ s ∈ plain, host.display.Shows s.toList) ∧
    ((∀ cs, host.display.refusal? cs = none) → o.exit = 0 ∧ o.error = none) := by
  have hrenders := renders_listingEntries host.display unique h.path h.specifiers
  rw [h.extract_eq]
  generalize hentries : listingEntries (Path.ofString file).text unique l = entries at hrenders
  refine ⟨?_, fun unrefused => ?_⟩
  -- the conditions on the lines and on the entries are the same, entry by entry
  · have htexts : (∀ s ∈ plainLines (Path.ofString file).text unique l,
        host.display.Shows s.toList) ↔ ∀ m ∈ entries, host.display.Shows m.text := by
      rw [← List.forall_mem_map (P := host.display.Shows), ← text_listingEntries, hentries,
        List.forall_mem_map]
    have hshown : (∀ m ∈ entries, m.shown = m.text) ↔
        ListsVerbatim (Path.ofString file).text (shownSpecifiers unique l) :=
      hentries ▸ shown_listingEntries_iff h.path h.specifiers
    rw [← joinLines_listingEntries, hentries, htexts, ← hshown, ← forall₂_and,
      ← Message.lines_eq_iff hrenders, ← printing_eq_iff]
    rfl
  · have hlines := Message.lines_of_unrefused hrenders fun m _ => unrefused _
    obtain ⟨hexit, herror, -⟩ := (printing_eq_iff _ _).mpr hlines
    exact ⟨hexit, herror⟩

/-- A file that refers to a text with tags, to one with colons and to one with backslashes before a tag and
at its end, on a display of 80 columns. -/
def marked : Host where
  __ := Host.ofTree (.directory [("[a].js",
    .file (Utf8.encode "require('[b]x[/b]');require('a:1:c d:');require('\\\\[c]\\\\\\\\')".toList))])
  display := .ofWidth 80 (by decide)

/-- The specifiers in `marked`. -/
def markedSpecifiers : List String := ["[b]x[/b]", "a:1:c d:", "\\[c]\\\\"]

/-- The listing of `marked` has no control characters and no halves of surrogate pairs. -/
theorem hasListing_marked : HasListing marked "[a].js" "utf-8" ⟨markedSpecifiers, false⟩ where
  listed := by decide +kernel
  path := Console.inline_of_all (by decide +kernel)
  specifiers s hs := by
    have hall : (markedSpecifiers.all fun s => s.toList.all fun c => decide (' ' ≤ c)) = true := by
      decide +kernel
    exact Console.inline_of_all (List.all_eq_true.mp hall s hs)
  paired text htext := by
    have hread : (Analysis.textAt marked "utf-8" (Path.ofString "[a].js")).toOption.all
        (fun text => !spellsHalf text.toList) = true := by decide +kernel
    rw [htext] at hread
    exact .inl (by simpa [Except.toOption] using hread)

/-- The lines of `marked` are shown as they are. -/
theorem output_extract_marked :
    (extract marked "[a].js" false false "utf-8").output =
        "[a].js (script)\n  [b]x[/b]\n  a:1:c d:\n  \\[c]\\\\\n" ∧
      ListsVerbatim "[a].js" markedSpecifiers ∧
      ∀ s ∈ ["[a].js (script)", "  [b]x[/b]", "  a:1:c d:", "  \\[c]\\\\"],
        marked.display.Shows s.toList := by
  obtain ⟨hiff, hsucceeds⟩ := output_extract_eq_iff hasListing_marked false
  obtain ⟨hexit, herror⟩ := hsucceeds fun _ => rfl
  have houtput : (extract marked "[a].js" false false "utf-8").output =
      "[a].js (script)\n  [b]x[/b]\n  a:1:c d:\n  \\[c]\\\\\n" := by
    decide +kernel
  exact ⟨houtput, hiff.mp ⟨hexit, herror, houtput.trans (by decide +kernel)⟩⟩

/-- A file that refers to the name of an emoji, to a text with a backslash at its end, and to one with a
backslash before a bracket with which no tag starts. -/
def altered : Host := .ofTree (.directory [("a.js",
  .file (Utf8.encode "require(':100:');require('a\\\\');require('\\\\[1]')".toList))])

/-- None of the texts in `altered` has a control character, and none is put out as it is, though every line
fits. -/
theorem extract_alters_specifiers :
    (analyze altered "utf-8" (Path.ofString "a.js")).result =
        .ok ⟨[":100:", "a\\", "\\[1]"], false⟩ ∧
      (∀ s ∈ [":100:", "a\\", "\\[1]"], Inline s.toList) ∧
      (∀ cs, altered.display.Shows cs) ∧
      (extract altered "a.js" false false "utf-8").output =
        "a.js (script)\n  💯\n  a\\\\\n  [1]\n" ∧
      (extract altered "a.js" false false "utf-8").output ≠
        String.join ((plainLines "a.js" false ⟨[":100:", "a\\", "\\[1]"], false⟩).map (· ++ "\n")) := by
  have hall : ∀ s ∈ [":100:", "a\\", "\\[1]"],
      (s.toList.all fun c => decide (' ' ≤ c)) = true := by decide +kernel
  have houtput : (extract altered "a.js" false false "utf-8").output =
      "a.js (script)\n  💯\n  a\\\\\n  [1]\n" := by
    decide +kernel
  refine ⟨by decide +kernel, fun s hs => Console.inline_of_all (hall s hs), fun _ => ⟨rfl, rfl⟩, houtput, ?_⟩
  rw [houtput]
  decide +kernel

end Command

end Specifiers
