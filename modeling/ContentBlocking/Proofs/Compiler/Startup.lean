import ContentBlocking.Proofs.Compiler.Passes

/-!
# What a startup leaves

A startup leaves no list of an unknown name in the store (`Compiler.exists_of_mem_identifiers`), and
a marker that keeps the next startup from purging by date unless the bundle has changed by then.
The one exception is a bundle from before the epoch with markers in a file that has none yet: such
a date cannot be kept (`Compiler.purges_again_iff`).
-/

namespace ContentBlocking

namespace Date

theorem lt_of_millis? {d : Date} {n : Nat} (h : d.millis? = some n) : n < 0x10000000000000000 := by
  rw [millis?] at h
  split_ifs at h
  obtain rfl := Option.some.inj h
  omega

theorem millis?_ofMillis {n : Nat} (h : n < 0x10000000000000000) :
    (ofMillis n).millis? = some n := by
  have hnonneg : 0 ≤ (ofMillis n).nanos :=
    Int.mul_nonneg (Int.natCast_nonneg n) (Int.natCast_nonneg nanosPerMilli)
  rw [millis?, if_pos hnonneg, ofMillis, nanosPerMilli]
  have hnanos : ((n : Int) * (1000000 : Nat)).toNat = n * 1000000 := by omega
  rw [hnanos, Nat.mul_div_cancel _ (by omega), Nat.mod_eq_of_lt h]

theorem laterMillis_self (o : Option Nat) : laterMillis o o = false := by
  cases o <;> simp [laterMillis]

end Date

/-! ### Markers -/

namespace MarkerStore

/-- The markers are kept in a file. -/
def InFile : MarkerStore → Prop
  | file .. => True
  | memory _ => False

variable {s : MarkerStore} {key : String} {date : Date} {t : FileTree}

theorem date?_setDate_memory {markers : Dict Date} :
    ((memory markers).setDate key date t).2.1.date? key = some date := by
  rw [setDate, date?, Std.ExtTreeMap.getElem?_insert_self]

theorem setDate_file_of_millis {path : String} {markers : Dict Nat} {n : Nat}
    (h : date.millis? = some n) :
    ((file path markers).setDate key date t).2.1 = file path (markers.insert key n) := by
  rw [setDate, h]
  simp only
  split <;> rfl

theorem setDate_file_of_beforeEpoch {path : String} {markers : Dict Nat}
    (h : date.millis? = none) :
    ((file path markers).setDate key date t).2.1 = file path markers := by
  rw [setDate, h]

/-- A date that has milliseconds is kept with them, also if the file cannot be written. -/
theorem exists_date?_setDate {n : Nat} (s : MarkerStore) (key : String) (t : FileTree)
    (h : date.millis? = some n) :
    ∃ kept, (s.setDate key date t).2.1.date? key = some kept ∧ kept.millis? = some n := by
  cases s with
  | file path markers =>
    rw [setDate_file_of_millis h, date?, Std.ExtTreeMap.getElem?_insert_self]
    exact ⟨_, rfl, Date.millis?_ofMillis (Date.lt_of_millis? h)⟩
  | memory markers => exact ⟨date, date?_setDate_memory, h⟩

end MarkerStore

namespace Compiler

variable {c c' : Compiler} {rules : AllowRules} {texts : Blocklist → String}

theorem purgeByDate_iff (c : Compiler) :
    c.purgeByDate.1 = true ↔
      ∃ newest, c.newestBundleDate? = some newest ∧ c.isStale newest = true := by
  rcases purgeByDate_eq c with ⟨hfalse, -⟩ | ⟨newest, hnewest, hstale, heq⟩
  · rw [hfalse]
    refine iff_of_false Bool.false_ne_true ?_
    rintro ⟨newest, hnewest, hstale⟩
    rw [purgeByDate, hnewest] at hfalse
    simp only [if_pos hstale, Bool.true_eq_false] at hfalse
  · rw [heq]
    exact iff_of_true rfl ⟨newest, hnewest, hstale⟩

theorem isStale_congr (h : c'.markers = c.markers) (newest : Date) :
    c'.isStale newest = c.isStale newest := by
  rw [isStale, isStale, h]

/-- The date of the bundle is lost between startups. -/
def LosesDate (c : Compiler) : Prop :=
  c.markers.InFile ∧ c.markers.date? bundleDateKey = none ∧
    ∃ newest, c.newestBundleDate? = some newest ∧ newest.millis? = none

/-- What was marked with a date is stale by it only if the date could not be kept. -/
theorem isStale_mark_iff (c : Compiler) (newest : Date) :
    (c.mark newest).isStale newest = true ↔
      c.markers.InFile ∧ newest.millis? = none ∧ c.markers.date? bundleDateKey = none := by
  rw [isStale, mark]
  cases hmarkers : c.markers with
  | memory markers =>
    simp only [MarkerStore.date?_setDate_memory, Date.laterMillis_self, Bool.false_eq_true,
      MarkerStore.InFile, false_and]
  | file path markers =>
    cases hmillis : newest.millis? with
    | none =>
      simp only [MarkerStore.setDate_file_of_beforeEpoch hmillis, MarkerStore.InFile, true_and]
      cases hdate : (MarkerStore.file path markers).date? bundleDateKey with
      | none => simp
      | some marker => simp [Date.laterMillis]
    | some n =>
      obtain ⟨kept, hkept, hn⟩ :=
        MarkerStore.exists_date?_setDate (.file path markers) bundleDateKey c.disk hmillis
      simp only [hkept, hn, Date.laterMillis_self, Bool.false_eq_true, reduceCtorEq, false_and,
        and_false]

/-- **The next startup purges by date again only if the date of the bundle was lost.** -/
theorem purges_again_iff (hmarkers : c'.markers = c.purgeByDate.2.markers)
    (hnewest : c'.newestBundleDate? = c.newestBundleDate?) :
    c'.purgeByDate.1 = true ↔ c.LosesDate := by
  rw [purgeByDate_iff, hnewest]
  rcases purgeByDate_eq c with ⟨hfalse, hsame⟩ | ⟨newest, hdate, -, heq⟩
  · -- nothing was purged, so the marker is there and as it was
    rw [hsame] at hmarkers
    simp only [isStale_congr hmarkers, ← purgeByDate_iff, hfalse, Bool.false_eq_true, false_iff]
    rintro ⟨-, hnone, newest, hdate, -⟩
    have hpurged := (purgeByDate_iff c).2 ⟨newest, hdate, by rw [isStale, hnone]⟩
    rw [hfalse] at hpurged
    cases hpurged
  · rw [heq] at hmarkers
    have hremoved : c.removeAll.2.markers = c.markers := markers_removeEach c c.installedIds
    simp only [isStale_congr hmarkers, hdate, Option.some.injEq, exists_eq_left', LosesDate,
      isStale_mark_iff, hremoved]
    tauto

/-! ### Identifiers -/

/-- Before lists are compiled the store has no list of an unknown name. -/
theorem lacks_unknown_purgeByName (htidy : c.store.Tidy c.disk.home)
    (hlist : c.purgeByName.2.store.Listable c.purgeByName.2.disk)
    (hsmooth : c.purgeByName.1 = true → c.PurgesSmoothly) {id : String}
    (hid : c.purgeByName.2.store.Admits id) (hunknown : Blocklist.ofFilename? id = none) :
    c.purgeByName.2.store.Lacks c.purgeByName.2.disk id := by
  rcases purgeByName_eq c with ⟨hall, heq⟩ | heq
  · rw [heq] at hlist hid ⊢
    by_contra hpresent
    have hknown := hall id ((mem_installedIds_iff hid hlist).2 hpresent)
    rw [hunknown] at hknown
    cases hknown
  · obtain ⟨hlist', hremove⟩ := hsmooth (by rw [heq])
    rw [heq] at hid ⊢
    refine lacks_removeAll htidy hlist' hremove ?_
    exact RuleStore.admits_of_dir? (touches_removeAll htidy hlist'.plain).store.dir.symm hid

/-- **After a startup the store has no list of an unknown name.** -/
theorem exists_of_mem_identifiers (hs : c.Separate) (ht : c.Serves texts)
    (hsmooth : c.StartsSmoothly rules)
    (htouch : Touches {id | id ∈ c.purgeByDate.2.purgeByName.2.missing.map Blocklist.filename}
      c.purgeByDate.2.purgeByName.2 c') {ids : List String}
    (hids : c'.store.identifiers c'.disk = .ok ids) {id : String} (hmem : id ∈ ids) :
    ∃ l : Blocklist, l.filename = id ∧ ¬c'.Has l none := by
  have hlist := hsmooth.compiles.1
  obtain ⟨hadmits, hpresent⟩ :=
    RuleStore.of_mem_identifiers (htouch.store.plain hlist.plain) hids hmem
  cases hname : Blocklist.ofFilename? id with
  | some l =>
    obtain rfl := Blocklist.ofFilename?_eq_some_iff.1 hname
    exact ⟨l, rfl, hpresent⟩
  | none =>
    have hadmits' := RuleStore.admits_of_dir? htouch.store.dir.symm hadmits
    have htidy := (drops_purgeByDate hs ht hsmooth.byDate).separate.tidy
    refine absurd (htouch.store.lacks ?_ hadmits' ?_) hpresent
    · intro hmissing
      obtain ⟨l, -, rfl⟩ := List.mem_map.1 hmissing
      rw [Blocklist.ofFilename?_eq_some_iff.2 rfl] at hname
      cases hname
    · exact lacks_unknown_purgeByName htidy hlist hsmooth.byName hadmits' hname

end Compiler

end ContentBlocking
