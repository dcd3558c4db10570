import ContentBlocking.Proofs.Json.Dict
import ContentBlocking.Proofs.Json.Records
import ContentBlocking.Proofs.Persistence

/-!
# Markers after a restart

A date that is set stays in memory whether or not the file can be written, and every write puts all
markers into the file.  So a write that succeeds makes up for all that failed before it: a store that
is opened on the file then has the markers of the live one (`MarkerStore.reopened_of_edits`).  That
the file reads back as the markers rests on their numbers having 64 bits, which is so for a number of
any file (`MarkerStore.isStorable_openAt`) and for the milliseconds of any date.
-/

namespace ContentBlocking

open Json (Numeral Reader)

namespace Date

/-- The date without its fraction of a millisecond. -/
def cut (d : Date) : Date := ⟨d.nanos / 1000000 * 1000000⟩

theorem millis?_eq_none_iff {d : Date} : d.millis? = none ↔ d.nanos < 0 := by
  rw [millis?]
  split_ifs with h
  · simp [h]
  · simpa using h

/-- The milliseconds of a date are the date without its fraction, if 64 bits hold them. -/
theorem ofMillis_of_millis? {d : Date} {n : Nat} (h : d.millis? = some n)
    (hlt : d.nanos < 2 ^ 64 * 1000000) : ofMillis n = d.cut := by
  rw [millis?] at h
  split_ifs at h with hnonneg
  obtain rfl := Option.some.inj h
  have hword : d.nanos.toNat / nanosPerMilli < 0x10000000000000000 := by
    rw [nanosPerMilli]
    omega
  rw [ofMillis, cut, Nat.mod_eq_of_lt hword, nanosPerMilli]
  congr 1
  omega

end Date

namespace MarkerStore

variable {path key : String} {markers : Dict Nat} {s : MarkerStore} {t t' : FileTree}

/-! ### The text of a file of markers -/

theorem markersOfText_textOfMarkers
    (h : ∀ (key : String) (n : Nat), markers[key]? = some n → n < Numeral.wordSize) :
    markersOfText (textOfMarkers markers) = markers := by
  have hread : (Reader.dict Reader.natural).run (textOfMarkers markers) = .ok markers := by
    rw [Reader.run_eq_ok, textOfMarkers, Json.Document.read_pretty]
    exact ⟨Reader.dict_ofDict fun key n hkey => Reader.natural_ofValue (h key n hkey), rfl⟩
  rw [markersOfText, hread]

theorem lt_of_markersOfText {text : String} {n : Nat} (h : (markersOfText text)[key]? = some n) :
    n < Numeral.wordSize := by
  rw [markersOfText] at h
  split at h
  · next markers hrun =>
    obtain ⟨item, hitem⟩ := Reader.exists_of_dict (Reader.run_eq_ok.1 hrun).1 h
    exact Reader.lt_of_natural hitem
  · simp at h

/-! ### Stores in files -/

/-- The markers are kept in the file at a path, each with 64 bits. -/
def IsStorable (s : MarkerStore) (path : String) : Prop :=
  ∃ markers, s = file path markers ∧
    ∀ (key : String) (n : Nat), markers[key]? = some n → n < Numeral.wordSize

theorem isStorable_openAt (path : String) (t : FileTree) : (openAt path t).IsStorable path := by
  rw [openAt]
  split
  · exact ⟨_, rfl, fun _ _ => lt_of_markersOfText⟩
  · exact ⟨∅, rfl, by simp⟩

theorem IsStorable.setDate (h : s.IsStorable path) (key : String) (date : Date) (t : FileTree) :
    (s.setDate key date t).2.1.IsStorable path := by
  obtain ⟨markers, rfl, hmarkers⟩ := h
  cases hmillis : date.millis? with
  | none => exact ⟨markers, setDate_file_of_beforeEpoch hmillis, hmarkers⟩
  | some n =>
    refine ⟨markers.insert key n, setDate_file_of_millis hmillis, fun key' m hkey => ?_⟩
    rw [Std.ExtTreeMap.getElem?_insert] at hkey
    split_ifs at hkey
    · obtain rfl := Option.some.inj hkey
      exact Date.lt_of_millis? hmillis
    · exact hmarkers key' m hkey

/-- A write that succeeds puts all markers into the file, also those that an earlier write missed. -/
theorem IsStorable.openAt_setDate (h : s.IsStorable path) {date : Date}
    (hok : (s.setDate key date t).1 = .ok ()) :
    openAt path (s.setDate key date t).2.2 = (s.setDate key date t).2.1 := by
  have hafter := h.setDate key date t
  obtain ⟨markers, rfl, -⟩ := h
  cases hmillis : date.millis? with
  | none => simp [setDate_of_beforeEpoch hmillis] at hok
  | some n =>
    rw [setDate_file_of_millis hmillis] at hafter ⊢
    obtain ⟨markers', heq, hmarkers⟩ := hafter
    obtain rfl : markers.insert key n = markers' := by simpa using heq
    have hfile := (allOrNothing_setDate hmillis path markers key t).done hok
    rw [openAt, hfile]
    simp only [markersOfText_textOfMarkers hmarkers]

/-! ### Runs -/

/-- A date that is set for a marker, and the disk that the call finds. -/
structure Edit where
  key : String
  date : Date
  disk : FileTree

/-- The store after some edits.  Between two of them the disk may change in any way. -/
def afterEdits (s : MarkerStore) (edits : List Edit) : MarkerStore :=
  edits.foldl (fun s e => (s.setDate e.key e.date e.disk).2.1) s

/-- The last date at or after the epoch that some edits set for a marker, in whole milliseconds. -/
def lastDate? (edits : List Edit) (key : String) : Option Date :=
  (edits.filter fun e => e.key == key && decide (0 ≤ e.date.nanos)).getLast?.map fun e => e.date.cut

theorem isStorable_afterEdits (h : s.IsStorable path) (edits : List Edit) :
    (s.afterEdits edits).IsStorable path := by
  induction edits generalizing s with
  | nil => exact h
  | cons e edits ih => exact ih (h.setDate e.key e.date e.disk)

/-- One edit replaces the date of its own marker, unless the date is before the epoch. -/
theorem IsStorable.date?_setDate (h : s.IsStorable path) {date : Date}
    (hlt : date.nanos < 2 ^ 64 * 1000000) (key key' : String) (t : FileTree) :
    (s.setDate key date t).2.1.date? key' =
      if key = key' ∧ 0 ≤ date.nanos then some date.cut else s.date? key' := by
  obtain ⟨markers, rfl, -⟩ := h
  cases hmillis : date.millis? with
  | none =>
    have hneg := Date.millis?_eq_none_iff.1 hmillis
    rw [setDate_of_beforeEpoch hmillis, if_neg (by omega)]
  | some n =>
    have hnonneg : 0 ≤ date.nanos := by
      by_contra hneg
      rw [Date.millis?_eq_none_iff.2 (by omega)] at hmillis
      cases hmillis
    rw [MarkerStore.date?_setDate hmillis, Date.ofMillis_of_millis? hmillis hlt]
    simp [hnonneg, eq_comm]

/-- A marker has the last date that was set for it, or else the one that it began with. -/
theorem date?_afterEdits (h : s.IsStorable path) {edits : List Edit}
    (hlt : ∀ e ∈ edits, e.date.nanos < 2 ^ 64 * 1000000) (key : String) :
    (s.afterEdits edits).date? key = (lastDate? edits key).or (s.date? key) := by
  induction edits generalizing s with
  | nil => rfl
  | cons e edits ih =>
    have hrest := ih (h.setDate e.key e.date e.disk) fun e' he' => hlt e' (List.mem_cons_of_mem _ he')
    rw [h.date?_setDate (hlt e List.mem_cons_self)] at hrest
    rw [afterEdits, List.foldl_cons, ← afterEdits, hrest, lastDate?, lastDate?]
    by_cases hkey : e.key = key ∧ 0 ≤ e.date.nanos
    · -- a later date hides this one
      rw [if_pos hkey, List.filter_cons_of_pos (by simpa using hkey), List.getLast?_cons]
      cases (edits.filter fun e => e.key == key && decide (0 ≤ e.date.nanos)).getLast? with
      | none => rfl
      | some last => rfl
    · rw [if_neg hkey, List.filter_cons_of_neg (by simpa using hkey)]

/-- **Markers survive a restart.**  After any edits with dates that 64 bits of milliseconds hold,
whatever file the store began with and whichever writes failed, each marker has the last date set
for it that is not before the epoch, or else the date that was loaded for it.  If the last edit
succeeded, a store that is opened on the file it left is the live one. -/
theorem reopened_of_edits (path : String) (t : FileTree) {edits : List Edit}
    (hlt : ∀ e ∈ edits, e.date.nanos < 2 ^ 64 * 1000000) :
    (∀ key, ((openAt path t).afterEdits edits).date? key =
        (lastDate? edits key).or ((openAt path t).date? key)) ∧
      ∀ front last, edits = front ++ [last] →
        let (result, live, t') :=
          ((openAt path t).afterEdits front).setDate last.key last.date last.disk
        live = (openAt path t).afterEdits edits ∧ (result = .ok () → openAt path t' = live) := by
  refine ⟨date?_afterEdits (isStorable_openAt path t) hlt, ?_⟩
  rintro front last rfl
  have hlive : (openAt path t).afterEdits (front ++ [last]) =
      (((openAt path t).afterEdits front).setDate last.key last.date last.disk).2.1 := by
    rw [afterEdits, List.foldl_concat, ← afterEdits]
  exact ⟨hlive.symm, (isStorable_afterEdits (isStorable_openAt path t) front).openAt_setDate⟩

/-- The file `m/markers` is malformed at first, and `m` is a file when the date of `a` is set.  The
write for `c` makes up for the one that failed; the date of `b` is before the epoch and is lost. -/
theorem reopened_of_failed_write :
    let disk := FileTree.empty [] ⟨0⟩
    let t := (disk.put ["m"] .directory).put ["m", "markers"] (.file (.text "[") ⟨0⟩)
    let a : Edit := ⟨"a", ⟨1999999⟩, disk.put ["m"] (.file (.text "") ⟨0⟩)⟩
    let b : Edit := ⟨"b", ⟨-1⟩, t⟩
    let c : Edit := ⟨"c", ⟨18446744073709551615999999⟩, t⟩
    let live := (openAt "m/markers" t).afterEdits [a, b, c]
    ((openAt "m/markers" t).setDate a.key a.date a.disk).1 = .error (.write .exists) ∧
      ∃ t', openAt "m/markers" t' = live ∧ live.date? "a" = some ⟨1000000⟩ ∧
        live.date? "b" = none ∧ live.date? "c" = some ⟨18446744073709551615000000⟩ := by
  intro disk t a b c live
  have hlt : ∀ e ∈ [a, b, c], e.date.nanos < 2 ^ 64 * 1000000 := by decide
  obtain ⟨hdates, hreopened⟩ := reopened_of_edits "m/markers" t hlt
  obtain ⟨hlive, hopen⟩ := hreopened [a, b] c rfl
  refine ⟨?_, _, (hopen ?_).trans hlive, ?_, ?_, ?_⟩
  · with_unfolding_all decide
  · with_unfolding_all decide
  · exact (hdates "a").trans (by decide)
  · exact (hdates "b").trans (by with_unfolding_all decide)
  · exact (hdates "c").trans (by decide)

end MarkerStore

end ContentBlocking
