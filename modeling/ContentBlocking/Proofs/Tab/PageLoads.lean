import ContentBlocking.Proofs.Event
import ContentBlocking.Proofs.Page.Stats
import ContentBlocking.Proofs.Tab.Reports
import Mathlib.Logic.Relation

/-!
# Reports across page loads

Any number of reports may be on their way in a tab, begun in the page load that is on or in earlier
ones, and they finish in any order.  `Visit.Step` is one step of such a run: a report begins or
finishes, the statistics are cleared, or something happens that is none of the tab's statistics.
The log of a run says what happened, without a word on the numbers by which the tab tells its page
loads apart.

The invariant (`Visit.Sound`): the number that a report began with is at most the one that the tab
has now, and equal to it exactly if the statistics were not cleared since.  As long as the numbers
do not come round, the statistics are those of the reports that began after the last clearing
(`Visit.counts_of_run`).
-/

namespace ContentBlocking

open Relation (ReflTransGen)

/-! ### What a report does -/

namespace Tab

variable {t t' : Tab} {b b' : Blocker} {payload : Json.Value} {begun : Begun}

/-- A report clears the statistics: the tab takes it, and its page is exempt. -/
def Clears (t : Tab) (b : Blocker) (payload : Json.Value) : Prop :=
  t.settings.privacyDashboard = true ∧
    ((payload.get? "url").bind Json.Value.string?).isSome = true ∧
    ∃ page, t.url = some page ∧ isExempt b page = true

/-- The first step of a report clears the statistics, or it changes nothing and remembers the page
load. -/
theorem beginReport_cases (h : t.beginReport b payload = (begun, t', b')) :
    (t.Clears b payload ∧ begun = .answered ∧ t.clearStats b = (t', b')) ∨
      ¬t.Clears b payload ∧ t' = t ∧ b' = b ∧
        ∀ load found, begun = .pending load found → load = t.pageLoad := by
  rw [beginReport] at h
  split at h
  · next hoff =>
    obtain ⟨rfl, rfl, rfl⟩ := by simpa using h
    refine .inr ⟨fun hclears => ?_, rfl, rfl, by simp⟩
    simp [hclears.1] at hoff
  · next hon =>
    have hon : t.settings.privacyDashboard = true := by simpa using hon
    split at h
    · next resource page hresource hpage =>
      split at h
      · next hexempt =>
        obtain ⟨rfl, rfl, rfl⟩ := by simpa using h
        exact .inl ⟨⟨hon, by rw [hresource]; rfl, page, hpage, hexempt⟩, rfl, rfl⟩
      · next hexempt =>
        have hkeeps : ¬t.Clears b payload := by
          rintro ⟨-, -, page', hpage', hexempt'⟩
          rw [hpage, Option.some.injEq] at hpage'
          exact hexempt (hpage' ▸ hexempt')
        split at h
        · obtain ⟨rfl, rfl, rfl⟩ := by simpa using h
          exact .inr ⟨hkeeps, rfl, rfl, by simp⟩
        · split at h
          · obtain ⟨rfl, rfl, rfl⟩ := by simpa using h
            refine .inr ⟨hkeeps, rfl, rfl, fun load found heq => ?_⟩
            exact (Begun.pending.inj heq).1.symm
          · obtain ⟨rfl, rfl, rfl⟩ := by simpa using h
            exact .inr ⟨hkeeps, rfl, rfl, by simp⟩
    · next hmissing =>
      obtain ⟨rfl, rfl, rfl⟩ := by simpa using h
      refine .inr ⟨?_, rfl, rfl, by simp⟩
      rintro ⟨-, hresource, page, hpage, -⟩
      obtain ⟨resource, hresource⟩ := Option.isSome_iff_exists.1 hresource
      exact hmissing _ _ hresource hpage

/-- The last step of a report answers with the tracker if the page load is still on; it counts the
tracker that it answers with and tells so, and otherwise it changes nothing. -/
theorem finishReport_cases {load : UInt64} {found answer : Option Tracker}
    (h : t.finishReport b (.pending load found) = (answer, t', b')) :
    answer = (if t.pageLoad = load then found else none) ∧
      (answer = none ∧ t' = t ∧ b' = b ∨
        ∃ tracker, answer = some tracker ∧ t' = { t with stats := t.stats.update tracker } ∧
          b' = b.emit (.statsChanged t.id)) := by
  cases found with
  | none =>
    rw [finishReport] at h
    obtain ⟨rfl, rfl, rfl⟩ := by simpa using h
    exact ⟨(ite_self none).symm, .inl ⟨rfl, rfl, rfl⟩⟩
  | some tracker =>
    rw [finishReport] at h
    split_ifs at h ⊢
    · obtain ⟨rfl, rfl, rfl⟩ := by simpa using h
      exact ⟨rfl, .inr ⟨tracker, rfl, rfl, rfl⟩⟩
    · obtain ⟨rfl, rfl, rfl⟩ := by simpa using h
      exact ⟨rfl, .inl ⟨rfl, rfl, rfl⟩⟩

end Tab

/-! ### Runs -/

/-- What happens to a tab. -/
inductive Moment
  /-- A report asks for its tracker. -/
  | began (report : Nat)
  /-- The statistics are cleared. -/
  | cleared
  /-- A report whose look-up came to `found` is answered. -/
  | finished (report : Nat) (found answer : Option Tracker)
  deriving DecidableEq

namespace Moment

/-- Whether the statistics change. -/
def tells : Moment → Bool
  | began _ => false
  | cleared => true
  | finished _ _ answer => answer.isSome

/-- The reports that began after the statistics were last cleared; the latest moment comes
first. -/
def fresh : List Moment → List Nat
  | [] => []
  | cleared :: _ => []
  | began report :: log => report :: fresh log
  | finished .. :: log => fresh log

/-- The trackers of the reports that began after the statistics were last cleared and have finished
with a tracker, in the order in which they finished. -/
def hits : List Moment → List Tracker
  | [] => []
  | cleared :: _ => []
  | began _ :: log => hits log
  | finished report found _ :: log =>
    hits log ++ if report ∈ fresh log then found.toList else []

end Moment

open Moment (fresh hits)

/-- A tab, and what has happened to it. -/
structure Visit where
  tab : Tab
  blocker : Blocker
  /-- The reports on their way, each with the number of the page load that it began in. -/
  reports : List (Nat × UInt64)
  /-- What happened, the latest moment first. -/
  log : List Moment
  /-- The events that were sent, the latest one last. -/
  sent : List Event

namespace Visit

/-- A new tab. -/
def initial (id : Nat) (url : Option String) (settings : Settings) (b : Blocker) : Visit :=
  ⟨.create id url settings, b, [], [], []⟩

/-- One step of a tab.  A report may find any tracker or none, since the database and the lists can
change while it is on its way; so can anything else but the statistics, of which nobody else
tells. -/
inductive Step : Visit → Visit → Prop
  | begin {t t' : Tab} {b b' : Blocker} {reports : List (Nat × UInt64)} {log : List Moment}
      {sent es : List Event} {payload : Json.Value} {report : Nat} {load : UInt64}
      {found : Option Tracker} (hbegin : t.beginReport b payload = (.pending load found, t', b'))
      (hnew : .began report ∉ log) (hsent : b'.events = b.events.sendAll es) :
      Step ⟨t, b, reports, log, sent⟩
        ⟨t', b', (report, load) :: reports, .began report :: log, sent ++ es⟩
  | exempt {t t' : Tab} {b b' : Blocker} {reports : List (Nat × UInt64)} {log : List Moment}
      {sent es : List Event} {payload : Json.Value}
      (hbegin : t.beginReport b payload = (.answered, t', b')) (hclears : t.Clears b payload)
      (hsent : b'.events = b.events.sendAll es) :
      Step ⟨t, b, reports, log, sent⟩ ⟨t', b', reports, .cleared :: log, sent ++ es⟩
  | dismiss {t t' : Tab} {b b' : Blocker} {reports : List (Nat × UInt64)} {log : List Moment}
      {sent es : List Event} {payload : Json.Value}
      (hbegin : t.beginReport b payload = (.answered, t', b')) (hclears : ¬t.Clears b payload)
      (hsent : b'.events = b.events.sendAll es) :
      Step ⟨t, b, reports, log, sent⟩ ⟨t', b', reports, log, sent ++ es⟩
  | clear {t t' : Tab} {b b' : Blocker} {reports : List (Nat × UInt64)} {log : List Moment}
      {sent es : List Event} (hclear : t.clearStats b = (t', b'))
      (hsent : b'.events = b.events.sendAll es) :
      Step ⟨t, b, reports, log, sent⟩ ⟨t', b', reports, .cleared :: log, sent ++ es⟩
  | finish {t t' : Tab} {b b' : Blocker} (xs ys : List (Nat × UInt64)) {log : List Moment}
      {sent es : List Event} {report : Nat} {load : UInt64} {found answer : Option Tracker}
      (hfinish : t.finishReport b (.pending load found) = (answer, t', b'))
      (hsent : b'.events = b.events.sendAll es) :
      Step ⟨t, b, xs ++ (report, load) :: ys, log, sent⟩
        ⟨t', b', xs ++ ys, .finished report found answer :: log, sent ++ es⟩
  | other {t t' : Tab} {b b' : Blocker} {reports : List (Nat × UInt64)} {log : List Moment}
      {sent es : List Event} (hid : t'.id = t.id) (hstats : t'.stats = t.stats)
      (hload : t'.pageLoad = t.pageLoad) (hsent : b'.events = b.events.sendAll es)
      (hothers : .statsChanged t.id ∉ es) :
      Step ⟨t, b, reports, log, sent⟩ ⟨t', b', reports, log, sent ++ es⟩

/-- How often the statistics were cleared. -/
def clearings (v : Visit) : Nat := v.log.count .cleared

/-- The invariant of runs. -/
structure Sound (v : Visit) : Prop where
  stats : v.tab.stats = .ofHits (hits v.log)
  pageLoad : v.tab.pageLoad = .ofNat v.clearings
  begun : ∀ {report load}, (report, load) ∈ v.reports → .began report ∈ v.log
  loads : ∀ {report load}, (report, load) ∈ v.reports → ∃ n, load = .ofNat n ∧
    n ≤ v.clearings ∧ (n = v.clearings ↔ report ∈ fresh v.log)
  answers : ∀ {later earlier report found answer},
    v.log = later ++ .finished report found answer :: earlier →
      answer = if report ∈ fresh earlier then found else none
  told : v.sent.count (.statsChanged v.tab.id) = v.log.countP Moment.tells

variable {v v' : Visit} {t t' : Tab} {b b' : Blocker} {reports : List (Nat × UInt64)}
  {log : List Moment} {sent es : List Event} {report : Nat} {load : UInt64}
  {found answer : Option Tracker}

theorem sound_initial (id : Nat) (url : Option String) (settings : Settings) (b : Blocker) :
    Sound (initial id url settings b) where
  stats := rfl
  pageLoad := rfl
  begun := by simp [initial]
  loads := by simp [initial]
  answers := by simp [initial]
  told := rfl

/-- Earlier answers stay. -/
theorem answers_cons {m : Moment} (h : Sound ⟨t, b, reports, log, sent⟩)
    (hm : ∀ {report found answer}, m = .finished report found answer →
      answer = if report ∈ fresh log then found else none) {later earlier : List Moment}
    (hlog : m :: log = later ++ .finished report found answer :: earlier) :
    answer = if report ∈ fresh earlier then found else none := by
  rcases List.cons_eq_append_iff.1 hlog with ⟨-, hlog⟩ | ⟨later', -, hlog⟩
  · obtain ⟨rfl, rfl⟩ := List.cons.inj hlog.symm
    exact hm rfl
  · exact h.answers hlog

theorem mem_of_mem_rest {xs ys : List (Nat × UInt64)} {x y : Nat × UInt64} (h : y ∈ xs ++ ys) :
    y ∈ xs ++ x :: ys := by
  rw [List.mem_append] at h ⊢
  exact h.imp_right (List.mem_cons_of_mem x)

/-! ### Steps -/

theorem sound_begin (h : Sound ⟨t, b, reports, log, sent⟩) (hnew : .began report ∉ log) :
    Sound ⟨t, b, (report, t.pageLoad) :: reports, .began report :: log, sent⟩ where
  stats := h.stats
  pageLoad := by rw [clearings, List.count_cons_of_ne (by simp)]; exact h.pageLoad
  begun hmem := by
    rcases List.mem_cons.1 hmem with heq | hmem
    · rw [(Prod.mk.inj heq).1]
      exact List.mem_cons_self
    · exact List.mem_cons_of_mem _ (h.begun hmem)
  loads {report' load'} hmem := by
    rw [clearings, List.count_cons_of_ne (by simp)]
    rcases List.mem_cons.1 hmem with heq | hmem
    · obtain ⟨rfl, rfl⟩ := Prod.mk.inj heq
      exact ⟨_, h.pageLoad, Nat.le_refl _, iff_of_true rfl List.mem_cons_self⟩
    · obtain ⟨n, hload, hle, hfresh⟩ := h.loads hmem
      have hne : report' ≠ report := fun heq => hnew (heq ▸ h.begun hmem)
      refine ⟨n, hload, hle, hfresh.trans ?_⟩
      rw [fresh, List.mem_cons, or_iff_right hne]
  answers hlog := answers_cons h (fun heq => by cases heq) hlog
  told := by rw [List.countP_cons_of_neg (by simp [Moment.tells])]; exact h.told

theorem sound_clear (h : Sound ⟨t, b, reports, log, sent⟩) :
    Sound ⟨(t.clearStats b).1, (t.clearStats b).2, reports, .cleared :: log,
      sent ++ [.statsChanged t.id]⟩ where
  stats := rfl
  pageLoad := by
    have hload := h.pageLoad
    simp only [clearings] at hload
    rw [clearings, List.count_cons_self, Tab.clearStats, UInt64.ofNat_add]
    exact congrArg (· + 1) hload
  begun hmem := List.mem_cons_of_mem _ (h.begun hmem)
  loads hmem := by
    obtain ⟨n, hload, hle, -⟩ := h.loads hmem
    have hle : n ≤ log.count .cleared := hle
    rw [clearings, List.count_cons_self]
    -- the number of an earlier page load is less than the new one
    exact ⟨n, hload, by omega, iff_of_false (by omega) List.not_mem_nil⟩
  answers hlog := answers_cons h (fun heq => by cases heq) hlog
  told := by
    rw [List.count_append, List.countP_cons_of_pos rfl]
    exact congrArg₂ (· + ·) h.told (List.count_singleton_self)

theorem pageLoad_eq_iff (h : Sound ⟨t, b, reports, log, sent⟩)
    (hfew : log.count .cleared < UInt64.size) (hmem : (report, load) ∈ reports) :
    t.pageLoad = load ↔ report ∈ fresh log := by
  obtain ⟨n, rfl, hle, hfresh⟩ := h.loads hmem
  have hload := h.pageLoad
  simp only [clearings] at hle hfresh hload
  rw [← hfresh, hload, ← UInt64.toNat_inj, UInt64.toNat_ofNat_of_lt' hfew,
    UInt64.toNat_ofNat_of_lt' (Nat.lt_of_le_of_lt hle hfew)]
  exact eq_comm

/-- The tracker that a report is answered with is counted. -/
theorem sound_answer {xs ys : List (Nat × UInt64)}
    (h : Sound ⟨t, b, xs ++ (report, load) :: ys, log, sent⟩)
    (hanswer : answer = if report ∈ fresh log then found else none) (b' : Blocker) :
    Sound ⟨{ t with stats := answer.toList.foldl PageStats.update t.stats }, b', xs ++ ys,
      .finished report found answer :: log,
      sent ++ answer.toList.map fun _ => .statsChanged t.id⟩ where
  stats := by
    have hstats : t.stats = .ofHits (hits log) := h.stats
    have hcounted : hits (.finished report found answer :: log) = hits log ++ answer.toList := by
      rw [hits, hanswer]
      split_ifs <;> rfl
    rw [hcounted, PageStats.ofHits, List.foldl_append, ← PageStats.ofHits, ← hstats]
  pageLoad := by
    rw [clearings, List.count_cons_of_ne (by simp)]
    exact h.pageLoad
  begun hmem := List.mem_cons_of_mem _ (h.begun (mem_of_mem_rest hmem))
  loads hmem := by
    rw [clearings, List.count_cons_of_ne (by simp)]
    exact h.loads (mem_of_mem_rest hmem)
  answers hlog := answers_cons h (fun heq => by cases heq; exact hanswer) hlog
  told := by
    rw [List.count_append]
    cases answer with
    | none => exact h.told
    | some tracker =>
      rw [List.countP_cons_of_pos rfl]
      exact congrArg₂ (· + ·) h.told List.count_singleton_self

theorem sound_finish {xs ys : List (Nat × UInt64)}
    (h : Sound ⟨t, b, xs ++ (report, load) :: ys, log, sent⟩)
    (hfew : log.count .cleared < UInt64.size)
    (hfinish : t.finishReport b (.pending load found) = (answer, t', b'))
    (hsent : b'.events = b.events.sendAll es) :
    Sound ⟨t', b', xs ++ ys, .finished report found answer :: log, sent ++ es⟩ := by
  obtain ⟨hanswer, hcases⟩ := Tab.finishReport_cases hfinish
  have hsame := pageLoad_eq_iff h hfew (List.mem_append_right _ List.mem_cons_self)
  simp only [hsame] at hanswer
  have hsound := sound_answer h hanswer b'
  rcases hcases with ⟨rfl, rfl, rfl⟩ | ⟨tracker, rfl, rfl, rfl⟩
  · obtain rfl := Channel.eq_nil_of_sendAll_eq hsent
    exact hsound
  · obtain rfl := Channel.eq_singleton_of_send_eq hsent
    exact hsound

theorem sound_other (h : Sound ⟨t, b, reports, log, sent⟩) (hid : t'.id = t.id)
    (hstats : t'.stats = t.stats) (hload : t'.pageLoad = t.pageLoad)
    (hothers : .statsChanged t.id ∉ es) : Sound ⟨t', b', reports, log, sent ++ es⟩ where
  stats := hstats.trans h.stats
  pageLoad := hload.trans h.pageLoad
  begun := h.begun
  loads := h.loads
  answers := h.answers
  told := by
    rw [List.count_append, hid, List.count_eq_zero.2 hothers]
    exact h.told

theorem sound_step (h : v.Sound) (hstep : Step v v') (hfew : v'.clearings < UInt64.size) :
    v'.Sound := by
  cases hstep with
  | begin hbegin hnew hsent =>
    rcases Tab.beginReport_cases hbegin with ⟨-, hpending, -⟩ | ⟨-, rfl, rfl, hload⟩
    · cases hpending
    · obtain rfl := Channel.eq_nil_of_sendAll_eq hsent
      obtain rfl := hload _ _ rfl
      rw [List.append_nil]
      exact sound_begin h hnew
  | exempt hbegin hclears hsent =>
    rcases Tab.beginReport_cases hbegin with ⟨-, -, hclear⟩ | ⟨hkeeps, -⟩
    · obtain ⟨rfl, rfl⟩ := Prod.mk.inj hclear
      obtain rfl := Channel.eq_singleton_of_send_eq hsent
      exact sound_clear h
    · exact absurd hclears hkeeps
  | dismiss hbegin hclears hsent =>
    rcases Tab.beginReport_cases hbegin with ⟨hclears', -⟩ | ⟨-, rfl, rfl, -⟩
    · exact absurd hclears' hclears
    · obtain rfl := Channel.eq_nil_of_sendAll_eq hsent
      rw [List.append_nil]
      exact h
  | clear hclear hsent =>
    obtain ⟨rfl, rfl⟩ := Prod.mk.inj hclear
    obtain rfl := Channel.eq_singleton_of_send_eq hsent
    exact sound_clear h
  | finish xs ys hfinish hsent =>
    rw [clearings, List.count_cons_of_ne (by simp)] at hfew
    exact sound_finish h hfew hfinish hsent
  | other hid hstats hload _ hothers => exact sound_other h hid hstats hload hothers

theorem clearings_le_of_step (hstep : Step v v') : v.clearings ≤ v'.clearings := by
  cases hstep with
  | dismiss | other => exact Nat.le_refl _
  | _ => exact List.count_le_count_cons

/-! ### Runs -/

theorem sound_of_run (h : v.Sound) (hrun : ReflTransGen Step v v')
    (hfew : v'.clearings < UInt64.size) : v'.Sound := by
  induction hrun with
  | refl => exact h
  | tail _ hstep ih =>
    exact sound_step (ih (Nat.lt_of_le_of_lt (clearings_le_of_step hstep) hfew)) hstep hfew

/-- **The statistics belong to one page load.**  In every state that a new tab can reach before the
numbers of its page loads come round, the statistics are those of the trackers of the reports that
began after the last clearing and have finished.  A report is answered with a tracker exactly if it
is counted, and a report that is answered at once has none.  For each clearing and for each report
that was counted one event was sent, and none otherwise. -/
theorem counts_of_run {id : Nat} {url : Option String} {settings : Settings} {b : Blocker}
    {v : Visit} (hrun : ReflTransGen Step (initial id url settings b) v)
    (hfew : v.clearings < UInt64.size) :
    v.tab.stats = (hits v.log).foldl PageStats.update .empty ∧
      (∀ later earlier report found answer,
        v.log = later ++ .finished report found answer :: earlier →
          answer = if report ∈ fresh earlier then found else none) ∧
      (∀ payload, (v.tab.beginReport v.blocker payload).1 = .answered →
        (v.tab.handleReport v.blocker payload).1 = none) ∧
      v.sent.count (.statsChanged v.tab.id) = v.log.countP Moment.tells := by
  have h := sound_of_run (sound_initial id url settings b) hrun hfew
  refine ⟨h.stats, fun _ _ _ _ _ hlog => h.answers hlog, fun payload hanswered => ?_, h.told⟩
  cases hbegin : v.tab.beginReport v.blocker payload with
  | mk begun rest =>
    rw [hbegin] at hanswered
    obtain rfl : begun = .answered := hanswered
    rw [Tab.handleReport, hbegin]
    rfl

/-- A page is left while a report is on its way, which finishes after a report of the next page has
begun and before that one does. -/
theorem counts_of_run_of_late_report : ∃ (b : Blocker) (v : Visit),
    ReflTransGen Step (initial 9 (some "http://news.com/") .standard b) v ∧
      v.clearings < UInt64.size ∧
      v.log = [.finished 1 (some ⟨.cdn, "a"⟩) (some ⟨.cdn, "a"⟩),
        .finished 0 (some ⟨.cdn, "a"⟩) none, .began 1, .cleared, .began 0] ∧
      v.tab.stats = PageStats.empty.update ⟨.cdn, "a"⟩ ∧ v.sent.count (.statsChanged 9) = 2 := by
  let b : Blocker :=
    { Blocker.ofConfig (.withRoot "." "state") (.empty [] ⟨0⟩) with
      database := ⟨some ⟨(∅ : Dict Tracker).insert "ads.com" ⟨.cdn, "a"⟩⟩⟩ }
  let t : Tab := .create 9 (some "http://news.com/") .standard
  let cleared : Tab × Blocker := t.clearStats b
  let payload : Json.Value := Tab.report "https://cdn.ads.com/a.js"
  have hexempt : Tab.isExempt b "http://news.com/" = false := by with_unfolding_all decide
  have hhttp : Url.withHttpScheme? "https://cdn.ads.com/a.js" = some "http://cdn.ads.com/a.js" := by
    decide
  have hask : (b.database.askFor? "http://cdn.ads.com/a.js").isSome = true := by decide
  have hbegin : t.beginReport b payload =
      (.pending 0 (b.classify "http://cdn.ads.com/a.js"), t, b) := by
    rw [Tab.beginReport_eq rfl rfl hexempt, hhttp]
    exact if_pos hask
  have hagain : cleared.1.beginReport cleared.2 payload =
      (.pending 1 (b.classify "http://cdn.ads.com/a.js"), cleared.1, cleared.2) := by
    have hexempt' : Tab.isExempt cleared.2 "http://news.com/" = false := hexempt
    rw [Tab.beginReport_eq (t := cleared.1) rfl rfl hexempt', hhttp]
    exact if_pos hask
  -- the page is left, and the next one begins a report
  let late : Visit := ⟨cleared.1, cleared.2, [(1, 1), (0, 0)], [.began 1, .cleared, .began 0],
    [.statsChanged 9]⟩
  have hbegun : Step (initial 9 (some "http://news.com/") .standard b)
      ⟨t, b, [(0, 0)], [.began 0], []⟩ := .begin hbegin List.not_mem_nil rfl
  have hleft : Step ⟨t, b, [(0, 0)], [.began 0], []⟩
      ⟨cleared.1, cleared.2, [(0, 0)], [.cleared, .began 0], [.statsChanged 9]⟩ := .clear rfl rfl
  have hlate : Step ⟨cleared.1, cleared.2, [(0, 0)], [.cleared, .began 0], [.statsChanged 9]⟩
      late := .begin hagain (by decide) rfl
  -- the report of the page that was left finishes first
  let tracker : Tracker := ⟨.cdn, "a"⟩
  let dropped : Visit := { late with
    reports := [(1, 1)], log := .finished 0 (some tracker) none :: late.log }
  have hdropped : Step late dropped := .finish [(1, 1)] [] rfl rfl
  have hcounted : Step dropped ⟨{ cleared.1 with stats := PageStats.empty.update tracker },
      cleared.2.emit (.statsChanged 9), [],
      .finished 1 (some tracker) (some tracker) :: dropped.log,
      [.statsChanged 9, .statsChanged 9]⟩ := .finish [] [] rfl rfl
  have hrun := ((((ReflTransGen.single hbegun).tail hleft).tail hlate).tail hdropped).tail hcounted
  obtain ⟨hstats, -, -, htold⟩ := counts_of_run hrun (by decide)
  exact ⟨b, _, hrun, by decide, rfl, hstats, htold⟩

end Visit

end ContentBlocking
