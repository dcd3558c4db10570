import ContentBlocking.Proofs.Blocker.Interleaving
import ContentBlocking.Proofs.Event
import ContentBlocking.Proofs.Tab.PageLoads

/-!
# Requests to reinstall

A tab that listens reads the events of its blocker one by one and reinstalls its lists when it is
asked to.  Meanwhile allow-lists are edited, lists are compiled and events are sent, and more of
them may be sent than the channel keeps.  `Subscription.Step` is one step of such a run; a setup of
the tab is as many steps as it looks up lists, and others may come between them.  The calls of
`Process`, the reports of the tab and the rounds of `Listener` are runs of such steps
(`Subscription.run_of_process`, `Subscription.run_of_finishReport`, `Subscription.run_of_round`).

No request is lost: a request that the listener has not answered by a setup is still to be read
(`Subscription.Sound.asked`).  The store is not touched after the last setup began but by a call
that still has to send its request, so the lists that are found in between are those of the store as
it is then (`Subscription.Sound.current`).  Once all is read and no call is on its way, the tab has
the lists that it should have (`Subscription.installed_of_run`).
-/

namespace ContentBlocking

open Relation (ReflTransGen)

/-- What happens while a tab listens. -/
inductive Occurrence
  | sent (e : Event)
  /-- The listener begins to reinstall the lists of the tab. -/
  | began
  /-- Somebody else changes the settings of the tab or its lists. -/
  | disturbed
  deriving DecidableEq

namespace Occurrence

/-- The event that was sent. -/
def event? : Occurrence → Option Event
  | sent e => some e
  | began | disturbed => none

/-- The events that were sent, in their order; the latest occurrence comes first. -/
def events (log : List Occurrence) : List Event := (log.filterMap event?).reverse

/-- What happened since the listener last began to reinstall. -/
def sinceSetup (log : List Occurrence) : List Occurrence := log.takeWhile (· ≠ began)

theorem events_cons_sent (e : Event) (log : List Occurrence) :
    events (.sent e :: log) = events log ++ [e] := by
  simp [events, event?]

theorem sinceSetup_subset (log : List Occurrence) : sinceSetup log ⊆ log :=
  (List.takeWhile_sublist _).subset

theorem sinceSetup_cons {o : Occurrence} (h : o ≠ began) (log : List Occurrence) :
    sinceSetup (o :: log) = o :: sinceSetup log := by
  simp [sinceSetup, h]

/-- What happened is all since the last setup if there was none. -/
theorem sinceSetup_of_not_mem {log : List Occurrence} (h : began ∉ log) : sinceSetup log = log := by
  rw [sinceSetup, List.takeWhile_eq_self_iff]
  intro o ho
  simp only [decide_eq_true_eq]
  rintro rfl
  exact h ho

end Occurrence

open Occurrence (events sinceSetup)

/-- A setup of a tab that is under way: the lists it has still to look up, and those it found. -/
structure Setup where
  rest : List Blocklist
  found : List String

/-- A tab that listens to a blocker, and the calls that are on their way there. -/
structure Subscription where
  blocker : Blocker
  calls : List Call
  tab : Tab
  /-- How many events the listener has read or missed. -/
  cursor : Cursor
  /-- What the listener is at; none if it waits for an event. -/
  setup? : Option Setup
  /-- What happened, the latest occurrence first. -/
  log : List Occurrence

/-- The lists that the settings of a tab ask for. -/
def Tab.wanted (t : Tab) : List Blocklist :=
  if t.settings.isEnabled then t.settings.enabledLists else []

/-- The tab with its lists taken off. -/
def Tab.bare (t : Tab) : Tab := { t with host := ⟨[], t.host.uninstalls + 1⟩ }

/-- The tab with more lists put on. -/
def Tab.install (t : Tab) (ids : List String) : Tab :=
  { t with host := { t.host with installed := t.host.installed ++ ids } }

namespace Compiler

theorem installable_nil (c : Compiler) : c.installable [] = [] := rfl

theorem installable_cons (c : Compiler) (l : Blocklist) (ls : List Blocklist) :
    c.installable (l :: ls) = c.installable [l] ++ c.installable ls := by
  unfold installable
  rw [List.filter_cons, List.filter_cons]
  split_ifs <;> rfl

end Compiler

namespace Subscription

/-- A listener that starts now. -/
def start (b : Blocker) (calls : List Call) (t : Tab) : Subscription :=
  ⟨b, calls, t, b.events.subscribe, none, []⟩

/-- One step of a call, of the listener or of somebody else.  A call that is in its pass may do
anything to the compiler; when it is done with that it asks the tabs to reinstall. -/
inductive Step : Subscription → Subscription → Prop
  | edit {b b' : Blocker} {calls : List Call} {t : Tab} {r : Cursor} {s? : Option Setup}
      {log : List Occurrence} {k : AllowList.Kind} {enabled : Bool} {url : String}
      {lists : List Blocklist} (h : b.edit k enabled url = (some lists, b')) :
      Step ⟨b, calls, t, r, s?, log⟩ ⟨b', .waiting (.recompile k lists) :: calls, t, r, s?, log⟩
  | load {b : Blocker} {calls : List Call} {t : Tab} {r : Cursor} {s? : Option Setup}
      {log : List Occurrence} :
      Step ⟨b, calls, t, r, s?, log⟩
        ⟨b.loadSuffixes.loadDatabase, .waiting .startup :: calls, t, r, s?, log⟩
  | lock {b : Blocker} (xs ys : List Call) {t : Tab} {r : Cursor} {s? : Option Setup}
      {log : List Occurrence} {pass : Pass} {rules : AllowRules} :
      Step ⟨b, xs ++ .waiting pass :: ys, t, r, s?, log⟩
        ⟨b, xs ++ .working pass rules :: ys, t, r, s?, log⟩
  | work {b : Blocker} (c : Compiler) {calls : List Call} {t : Tab} {r : Cursor}
      {s? : Option Setup} {log : List Occurrence} {pass : Pass} {rules : AllowRules}
      (h : .working pass rules ∈ calls) :
      Step ⟨b, calls, t, r, s?, log⟩ ⟨{ b with compiler := c }, calls, t, r, s?, log⟩
  | unlock {b : Blocker} (xs ys : List Call) {t : Tab} {r : Cursor} {s? : Option Setup}
      {log : List Occurrence} {pass : Pass} {rules : AllowRules} :
      Step ⟨b, xs ++ .working pass rules :: ys, t, r, s?, log⟩
        ⟨b, xs ++ .finishing pass :: ys, t, r, s?, log⟩
  | announce {b : Blocker} (xs ys : List Call) {t : Tab} {r : Cursor} {s? : Option Setup}
      {log : List Occurrence} {pass : Pass} :
      Step ⟨b, xs ++ .finishing pass :: ys, t, r, s?, log⟩
        ⟨b.announce, xs ++ ys, t, r, s?, .sent .setupRequired :: log⟩
  | remind {b : Blocker} {calls : List Call} {t : Tab} {r : Cursor} {s? : Option Setup}
      {log : List Occurrence} :
      Step ⟨b, calls, t, r, s?, log⟩ ⟨b.announce, calls, t, r, s?, .sent .setupRequired :: log⟩
  | tell {b b' : Blocker} {calls : List Call} {t : Tab} {r : Cursor} {s? : Option Setup}
      {log : List Occurrence} {e : Event} (hother : e ≠ .setupRequired)
      (hcompiler : b'.compiler = b.compiler) (hsent : b'.events = b.events.send e) :
      Step ⟨b, calls, t, r, s?, log⟩ ⟨b', calls, t, r, s?, .sent e :: log⟩
  | browse {b : Blocker} {calls : List Call} {t t' : Tab} {r : Cursor} {s? : Option Setup}
      {log : List Occurrence} (hsettings : t'.settings = t.settings) (hhost : t'.host = t.host) :
      Step ⟨b, calls, t, r, s?, log⟩ ⟨b, calls, t', r, s?, log⟩
  | disturb {b : Blocker} {calls : List Call} {t : Tab} (t' : Tab) {r : Cursor}
      {s? : Option Setup} {log : List Occurrence} :
      Step ⟨b, calls, t, r, s?, log⟩ ⟨b, calls, t', r, s?, .disturbed :: log⟩
  | ignore {b : Blocker} {calls : List Call} {t : Tab} {r r' : Cursor} {log : List Occurrence}
      {e : Event} (h : b.events.receive? r = some (.event e, r')) (hother : e ≠ .setupRequired) :
      Step ⟨b, calls, t, r, none, log⟩ ⟨b, calls, t, r', none, log⟩
  | begin {b : Blocker} {calls : List Call} {t : Tab} {r r' : Cursor} {log : List Occurrence}
      {received : Received} (h : b.events.receive? r = some (received, r'))
      (hasked : ∀ e, received = .event e → e = .setupRequired) :
      Step ⟨b, calls, t, r, none, log⟩
        ⟨b, calls, t.bare, r', some ⟨t.wanted, []⟩, .began :: log⟩
  | look {b : Blocker} {calls : List Call} {t : Tab} {r : Cursor} {log : List Occurrence}
      {l : Blocklist} {ls : List Blocklist} {found : List String} :
      Step ⟨b, calls, t, r, some ⟨l :: ls, found⟩, log⟩
        ⟨b, calls, t, r, some ⟨ls, found ++ b.compiler.installable [l]⟩, log⟩
  | install {b : Blocker} {calls : List Call} {t : Tab} {r : Cursor} {log : List Occurrence}
      {found : List String} :
      Step ⟨b, calls, t, r, some ⟨[], found⟩, log⟩ ⟨b, calls, t.install found, r, none, log⟩

variable {v v' : Subscription} {b b' : Blocker} {calls : List Call} {t t' : Tab} {r r' : Cursor}
  {s? : Option Setup} {log : List Occurrence} {before : List Event}

/-- No call is on its way that has changed an allow-list or the store. -/
def Quiet (v : Subscription) : Prop := ∀ call ∈ v.calls, call = .waiting .startup

/-- The events that the listener has not read, if `before` were sent before it listened. -/
def unread (before : List Event) (v : Subscription) : List Event :=
  (before ++ events v.log).drop v.cursor

/-- The tab has the lists that it should have, or it will when its setup goes on. -/
def IsCurrent (v : Subscription) : Prop :=
  match v.setup? with
  | none => v.tab.host.installed = v.blocker.compiler.installable v.tab.wanted
  | some s => v.tab.host.installed = [] ∧
      s.found ++ v.blocker.compiler.installable s.rest =
        v.blocker.compiler.installable v.tab.wanted

theorem IsCurrent.congr (h : v.IsCurrent) (hsetup : v'.setup? = v.setup?)
    (hhost : v'.tab.host = v.tab.host) (hwanted : v'.tab.wanted = v.tab.wanted)
    (hcompiler : v'.blocker.compiler = v.blocker.compiler) : v'.IsCurrent := by
  rw [IsCurrent, hsetup, hhost, hwanted, hcompiler]
  exact h

/-- The invariant of runs. -/
structure Sound (before : List Event) (v : Subscription) : Prop where
  history : v.blocker.events = Channel.empty.sendAll (before ++ events v.log)
  cursor : v.cursor ≤ (before ++ events v.log).length
  asked : .sent .setupRequired ∈ sinceSetup v.log → .setupRequired ∈ v.unread before
  current : .began ∈ v.log → v.Quiet → .setupRequired ∉ v.unread before →
    .disturbed ∉ sinceSetup v.log → v.IsCurrent

theorem sound_start (hevents : b.events = Channel.empty.sendAll before) (calls : List Call)
    (t : Tab) : Sound before (start b calls t) where
  history := by
    rw [start, hevents]
    simp [events]
  cursor := by
    rw [start, hevents]
    simp [Channel.subscribe, Channel.sent_sendAll_empty]
  asked h := absurd h List.not_mem_nil
  current h := absurd h List.not_mem_nil

/-! ### Steps of calls -/

/-- A step without an occurrence. -/
theorem Sound.of_silent (h : Sound before v) (hlog : v'.log = v.log)
    (hevents : v'.blocker.events = v.blocker.events) (hcursor : v'.cursor = v.cursor)
    (hcurrent : v'.Quiet → v.Quiet ∧ (v.IsCurrent → v'.IsCurrent)) : Sound before v' where
  history := by rw [hevents, hlog, h.history]
  cursor := by rw [hcursor, hlog]; exact h.cursor
  asked := by rw [unread, hlog, hcursor]; exact h.asked
  current hbegan hquiet hread hsettled := by
    rw [unread, hcursor] at hread
    rw [hlog] at hbegan hread hsettled
    obtain ⟨hquiet', hkeeps⟩ := hcurrent hquiet
    exact hkeeps (h.current hbegan hquiet' hread hsettled)

/-- A step that sends an event. -/
theorem Sound.of_sent {e : Event} (h : Sound before v) (hlog : v'.log = .sent e :: v.log)
    (hevents : v'.blocker.events = v.blocker.events.send e) (hcursor : v'.cursor = v.cursor)
    (hcurrent : e ≠ .setupRequired → v'.Quiet → v.Quiet ∧ (v.IsCurrent → v'.IsCurrent)) :
    Sound before v' := by
  have hsince : sinceSetup v'.log = .sent e :: sinceSetup v.log := by
    rw [hlog]
    exact Occurrence.sinceSetup_cons (by simp) v.log
  have hunread : v'.unread before = v.unread before ++ [e] := by
    rw [unread, unread, hlog, hcursor, Occurrence.events_cons_sent, ← List.append_assoc,
      List.drop_append_of_le_length h.cursor]
  refine ⟨?_, ?_, ?_, ?_⟩
  · rw [hevents, h.history, hlog, Occurrence.events_cons_sent, ← List.append_assoc,
      Channel.sendAll_append _ (before ++ events v.log) [e]]
    rfl
  · rw [hcursor, hlog, Occurrence.events_cons_sent, ← List.append_assoc]
    exact Nat.le_trans h.cursor (List.sublist_append_left _ _).length_le
  · intro hasked
    rw [hunread, List.mem_append]
    rw [hsince] at hasked
    rcases List.mem_cons.1 hasked with heq | hmem
    · right
      rw [← (Occurrence.sent.inj heq)]
      exact List.mem_singleton_self _
    · exact .inl (h.asked hmem)
  · intro hbegan hquiet hread hsettled
    -- the event is still to be read, so it is no request if none is
    rw [hunread, List.mem_append, not_or] at hread
    have hother : e ≠ .setupRequired := fun heq => hread.2 (by simp [heq])
    obtain ⟨hquiet', hkeeps⟩ := hcurrent hother hquiet
    rw [hlog] at hbegan
    rw [hsince] at hsettled
    have hbegan' : .began ∈ v.log := by simpa using hbegan
    have hsettled' : .disturbed ∉ sinceSetup v.log := fun hmem =>
      hsettled (List.mem_cons_of_mem _ hmem)
    exact hkeeps (h.current hbegan' hquiet' hread.1 hsettled')

theorem not_quiet {call : Call} (hmem : call ∈ v.calls) (hne : call ≠ .waiting .startup) :
    ¬v.Quiet := fun hquiet => hne (hquiet call hmem)

theorem sound_edit {k : AllowList.Kind} {enabled : Bool} {url : String} {lists : List Blocklist}
    (h : Sound before ⟨b, calls, t, r, s?, log⟩) (hedit : b.edit k enabled url = (some lists, b')) :
    Sound before ⟨b', .waiting (.recompile k lists) :: calls, t, r, s?, log⟩ := by
  have hevents : b'.events = b.events := by
    have heq : b' = (b.edit k enabled url).2 := by rw [hedit]
    rw [heq]
    rfl
  exact h.of_silent rfl hevents rfl fun hquiet =>
    absurd hquiet (not_quiet List.mem_cons_self (by simp))

theorem sound_load (h : Sound before ⟨b, calls, t, r, s?, log⟩) :
    Sound before ⟨b.loadSuffixes.loadDatabase, .waiting .startup :: calls, t, r, s?, log⟩ := by
  have hcompiler : b.loadSuffixes.loadDatabase.compiler = b.compiler := b.compiler_loadSuffixes
  refine h.of_silent rfl b.events_loadSuffixes rfl fun hquiet => ⟨?_, ?_⟩
  · intro call hmem
    exact hquiet call (List.mem_cons_of_mem _ hmem)
  · intro hcurrent
    exact hcurrent.congr rfl rfl rfl hcompiler

/-- A call that comes to its pass or goes on in it is on its way. -/
theorem sound_busy {call : Call} (h : Sound before ⟨b, calls, t, r, s?, log⟩)
    (hevents : b'.events = b.events) {calls' : List Call} (hmem : call ∈ calls')
    (hne : call ≠ .waiting .startup) : Sound before ⟨b', calls', t, r, s?, log⟩ :=
  h.of_silent rfl hevents rfl fun hquiet => absurd hquiet (not_quiet hmem hne)

/-- A request is to be read, whatever else changes. -/
theorem sound_announce (h : Sound before ⟨b, calls, t, r, s?, log⟩) (calls' : List Call) :
    Sound before ⟨b.announce, calls', t, r, s?, .sent .setupRequired :: log⟩ :=
  h.of_sent rfl rfl rfl fun hother => absurd rfl hother

theorem sound_tell {e : Event} (h : Sound before ⟨b, calls, t, r, s?, log⟩)
    (hcompiler : b'.compiler = b.compiler) (hsent : b'.events = b.events.send e) :
    Sound before ⟨b', calls, t, r, s?, .sent e :: log⟩ := by
  refine h.of_sent rfl hsent rfl fun _ hquiet => ⟨hquiet, fun hcurrent => ?_⟩
  exact hcurrent.congr rfl rfl rfl hcompiler

/-! ### Steps of the tab -/

theorem sound_browse (h : Sound before ⟨b, calls, t, r, s?, log⟩)
    (hsettings : t'.settings = t.settings) (hhost : t'.host = t.host) :
    Sound before ⟨b, calls, t', r, s?, log⟩ := by
  have hwanted : t'.wanted = t.wanted := by rw [Tab.wanted, Tab.wanted, hsettings]
  refine h.of_silent rfl rfl rfl fun hquiet => ⟨hquiet, fun hcurrent => ?_⟩
  exact hcurrent.congr rfl hhost hwanted rfl

/-- What others do to the tab counts against the setup that began last. -/
theorem sound_disturb (h : Sound before ⟨b, calls, t, r, s?, log⟩) (t' : Tab) :
    Sound before ⟨b, calls, t', r, s?, .disturbed :: log⟩ := by
  have hsince : sinceSetup (.disturbed :: log) = .disturbed :: sinceSetup log :=
    Occurrence.sinceSetup_cons (by simp) log
  refine ⟨h.history, h.cursor, fun hasked => ?_, fun _ _ _ hsettled => ?_⟩
  · refine h.asked ?_
    rw [hsince] at hasked
    simpa using hasked
  · rw [hsince] at hsettled
    exact absurd List.mem_cons_self hsettled

/-! ### Steps of the listener -/

/-- Another event than a request leaves all requests to be read. -/
theorem sound_ignore {e : Event} (h : Sound before ⟨b, calls, t, r, none, log⟩)
    (hreceive : b.events.receive? r = some (.event e, r')) (hother : e ≠ .setupRequired) :
    Sound before ⟨b, calls, t, r', none, log⟩ := by
  have hevents : b.events = Channel.empty.sendAll (before ++ events log) := h.history
  rw [hevents] at hreceive
  obtain ⟨hle, hcases⟩ := Channel.receive?_cases h.cursor hreceive
  obtain ⟨e', heq, hdrop⟩ : ∃ e', Received.event e = .event e' ∧
      (before ++ events log).drop r = e' :: (before ++ events log).drop r' := by
    rcases hcases with hevent | ⟨n, hlagged⟩
    · exact hevent
    · cases hlagged
  obtain rfl := Received.event.inj heq
  have hunread : ∀ {s? : Option Setup}, Event.setupRequired ∈
      unread before ⟨b, calls, t, r, s?, log⟩ ↔
      Event.setupRequired ∈ unread before ⟨b, calls, t, r', s?, log⟩ := by
    intro s?
    simp only [unread]
    rw [hdrop, List.mem_cons, or_iff_right (Ne.symm hother)]
  refine ⟨h.history, hle, fun hasked => hunread.1 (h.asked hasked), ?_⟩
  intro hbegan hquiet hread hsettled
  exact h.current hbegan hquiet (fun hmem => hread (hunread.1 hmem)) hsettled

/-- **A setup answers all requests so far**, read or missed. -/
theorem sound_begin {received : Received} (h : Sound before ⟨b, calls, t, r, none, log⟩)
    (hreceive : b.events.receive? r = some (received, r')) :
    Sound before ⟨b, calls, t.bare, r', some ⟨t.wanted, []⟩, .began :: log⟩ := by
  have hevents : b.events = Channel.empty.sendAll (before ++ events log) := h.history
  rw [hevents] at hreceive
  obtain ⟨hle, -⟩ := Channel.receive?_cases h.cursor hreceive
  -- nothing was asked since this setup began, and it has still to look up all lists
  exact ⟨h.history, hle, fun hasked => absurd hasked List.not_mem_nil, fun _ _ _ _ => ⟨rfl, rfl⟩⟩

theorem sound_look {l : Blocklist} {ls : List Blocklist} {found : List String}
    (h : Sound before ⟨b, calls, t, r, some ⟨l :: ls, found⟩, log⟩) :
    Sound before ⟨b, calls, t, r, some ⟨ls, found ++ b.compiler.installable [l]⟩, log⟩ := by
  refine h.of_silent rfl rfl rfl fun hquiet => ⟨hquiet, fun hcurrent => ?_⟩
  obtain ⟨hbare, hfound⟩ := hcurrent
  refine ⟨hbare, ?_⟩
  simp only [Compiler.installable_cons _ l ls] at hfound
  rw [← hfound]
  exact List.append_assoc _ _ _

theorem sound_install {found : List String}
    (h : Sound before ⟨b, calls, t, r, some ⟨[], found⟩, log⟩) :
    Sound before ⟨b, calls, t.install found, r, none, log⟩ := by
  refine h.of_silent rfl rfl rfl fun hquiet => ⟨hquiet, fun hcurrent => ?_⟩
  obtain ⟨hbare, hfound⟩ := hcurrent
  have hbare : t.host.installed = [] := hbare
  have hfound : found ++ b.compiler.installable [] = b.compiler.installable t.wanted := hfound
  rw [Compiler.installable_nil, List.append_nil] at hfound
  change t.host.installed ++ found = b.compiler.installable t.wanted
  rw [hbare, List.nil_append, hfound]

/-! ### Runs -/

theorem sound_step (h : v.Sound before) (hstep : Step v v') : v'.Sound before := by
  cases hstep with
  | edit hedit => exact sound_edit h hedit
  | load => exact sound_load h
  | lock xs ys => exact sound_busy h rfl (Process.mem_middle.2 (.inl rfl)) (by simp)
  | work c hmem =>
    refine sound_busy h ?_ hmem (by simp)
    rfl
  | unlock xs ys => exact sound_busy h rfl (Process.mem_middle.2 (.inl rfl)) (by simp)
  | announce xs ys => exact sound_announce h _
  | remind => exact sound_announce h _
  | tell _ hcompiler hsent => exact sound_tell h hcompiler hsent
  | browse hsettings hhost => exact sound_browse h hsettings hhost
  | disturb t' => exact sound_disturb h t'
  | ignore hreceive hother => exact sound_ignore h hreceive hother
  | begin hreceive _ => exact sound_begin h hreceive
  | look => exact sound_look h
  | install => exact sound_install h

theorem sound_of_run (h : v.Sound before) (hrun : ReflTransGen Step v v') : v'.Sound before := by
  induction hrun with
  | refl => exact h
  | tail _ hstep ih => exact sound_step ih hstep

/-! ### Whole calls and rounds -/

/-- The steps of calls among themselves are steps here. -/
theorem run_of_process {p p' : Process} (hstep : Process.Step p p') (t : Tab) (r : Cursor)
    (s? : Option Setup) (log : List Occurrence) :
    ∃ log', ReflTransGen Step ⟨p.blocker, p.calls, t, r, s?, log⟩
      ⟨p'.blocker, p'.calls, t, r, s?, log'⟩ := by
  cases hstep with
  | edit hedit => exact ⟨log, .single (.edit hedit)⟩
  | ignore hedit =>
    obtain rfl := Blocker.edit_none hedit
    exact ⟨log, .refl⟩
  | load => exact ⟨log, .single .load⟩
  | lock xs ys => exact ⟨log, .single (.lock xs ys)⟩
  | @unlock b b' xs ys pass rules ran report hsmooth hpass =>
    obtain ⟨⟨report', c⟩, -, hend⟩ := bind_eq_ok.1 hpass
    obtain ⟨-, rfl⟩ := Prod.mk.inj (Except.ok.inj hend)
    have hmem : .working pass rules ∈ xs ++ .working pass rules :: ys :=
      Process.mem_middle.2 (.inl rfl)
    have hwork : Step ⟨b, xs ++ .working pass rules :: ys, t, r, s?, log⟩
        ⟨{ b with compiler := c }, xs ++ .working pass rules :: ys, t, r, s?, log⟩ := .work c hmem
    exact ⟨log, (ReflTransGen.single hwork).tail (.unlock xs ys)⟩
  | @finish b xs ys pass ran =>
    cases pass with
    | recompile k lists => exact ⟨_, .single (.announce xs ys)⟩
    | startup =>
      -- the start first tells that it is complete
      let told : Blocker := { b with setupCompleted := true }.emit .setupCompleted
      have htell : Step ⟨b, xs ++ .finishing .startup :: ys, t, r, s?, log⟩
          ⟨told, xs ++ .finishing .startup :: ys, t, r, s?, .sent .setupCompleted :: log⟩ :=
        .tell (by simp) rfl rfl
      exact ⟨_, (ReflTransGen.single htell).tail (.announce xs ys)⟩

/-- Clearing the statistics of the tab is a change of the tab and an event. -/
theorem run_of_clearStats (hclear : t.clearStats b = (t', b')) :
    ReflTransGen Step ⟨b, calls, t, r, s?, log⟩
      ⟨b', calls, t', r, s?, .sent (.statsChanged t.id) :: log⟩ := by
  obtain ⟨rfl, rfl⟩ := Prod.mk.inj hclear
  have hbrowse : Step ⟨b, calls, t, r, s?, log⟩
      ⟨b, calls, (t.clearStats b).1, r, s?, log⟩ := .browse rfl rfl
  have htell : Step ⟨b, calls, (t.clearStats b).1, r, s?, log⟩
      ⟨b.emit (.statsChanged t.id), calls, (t.clearStats b).1, r, s?,
        .sent (.statsChanged t.id) :: log⟩ := .tell (by simp) rfl rfl
  exact (ReflTransGen.single hbrowse).tail htell

/-- Both steps of a report leave the lists and the settings of the tab alone. -/
theorem run_of_beginReport {payload : Json.Value} {begun : Tab.Begun}
    (hbegin : t.beginReport b payload = (begun, t', b')) :
    ∃ log', ReflTransGen Step ⟨b, calls, t, r, s?, log⟩ ⟨b', calls, t', r, s?, log'⟩ := by
  rcases Tab.beginReport_cases hbegin with ⟨-, -, hclear⟩ | ⟨-, rfl, rfl, -⟩
  · exact ⟨_, run_of_clearStats hclear⟩
  · exact ⟨log, .refl⟩

theorem run_of_finishReport {begun : Tab.Begun} {answer : Option Tracker}
    (hfinish : t.finishReport b begun = (answer, t', b')) :
    ∃ log', ReflTransGen Step ⟨b, calls, t, r, s?, log⟩ ⟨b', calls, t', r, s?, log'⟩ := by
  cases begun with
  | answered =>
    obtain ⟨-, rfl, rfl⟩ := by simpa [Tab.finishReport] using hfinish
    exact ⟨log, .refl⟩
  | pending load found =>
    rcases (Tab.finishReport_cases hfinish).2 with ⟨-, rfl, rfl⟩ | ⟨tracker, -, rfl, rfl⟩
    · exact ⟨log, .refl⟩
    · have hbrowse : Step ⟨b, calls, t, r, s?, log⟩
          ⟨b, calls, { t with stats := t.stats.update tracker }, r, s?, log⟩ := .browse rfl rfl
      exact ⟨_, (ReflTransGen.single hbrowse).tail (.tell (by simp) rfl rfl)⟩

/-- Others may send as many events as they like. -/
theorem run_of_sendAll {es : List Event} (hothers : .setupRequired ∉ es) (b : Blocker)
    (calls : List Call) (t : Tab) (r : Cursor) (s? : Option Setup) (log : List Occurrence) :
    ReflTransGen Step ⟨b, calls, t, r, s?, log⟩
      ⟨{ b with events := b.events.sendAll es }, calls, t, r, s?,
        (es.map .sent).reverse ++ log⟩ := by
  induction es generalizing b log with
  | nil => exact .refl
  | cons e es ih =>
    rw [List.mem_cons, not_or] at hothers
    obtain ⟨hother, hothers⟩ := hothers
    have htell : Step ⟨b, calls, t, r, s?, log⟩
        ⟨b.emit e, calls, t, r, s?, .sent e :: log⟩ := .tell (Ne.symm hother) rfl rfl
    rw [List.map_cons, List.reverse_cons, List.append_assoc]
    exact .head htell (ih hothers (b.emit e) _)

/-- A setup comes to its end. -/
theorem run_of_setup (b : Blocker) (calls : List Call) (t : Tab) (r : Cursor)
    (log : List Occurrence) (ls : List Blocklist) (found : List String) :
    ReflTransGen Step ⟨b, calls, t, r, some ⟨ls, found⟩, log⟩
      ⟨b, calls, t.install (found ++ b.compiler.installable ls), r, none, log⟩ := by
  induction ls generalizing found with
  | nil =>
    rw [Compiler.installable_nil, List.append_nil]
    exact .single .install
  | cons l ls ih =>
    rw [Compiler.installable_cons, ← List.append_assoc]
    exact .head .look (ih _)

/-- A setup that nothing comes between reinstalls the lists of the tab. -/
theorem setup_eq (t : Tab) (b : Blocker) :
    (t.setup b).2 = t.bare.install (b.compiler.installable t.wanted) := by
  have hinstalled : (if t.settings.isEnabled then
      b.compiler.installable t.settings.enabledLists else []) =
      b.compiler.installable t.wanted := by
    rw [Tab.wanted]
    split_ifs <;> rfl
  rw [Tab.setup, Blocker.reinstall, Compiler.reinstall, hinstalled]
  rfl

/-- **A round of the listener is a run of its steps**, if nothing comes between them. -/
theorem run_of_round (b : Blocker) (calls : List Call) (t : Tab) (r : Cursor)
    (log : List Occurrence) (running : Bool) :
    ∃ n, ReflTransGen Step ⟨b, calls, t, r, none, log⟩
      ⟨b, calls, (Listener.step ⟨r, running⟩ b t).2, (Listener.step ⟨r, running⟩ b t).1.cursor,
        none, List.replicate n .began ++ log⟩ := by
  rw [Listener.step]
  cases hreceive : b.events.receive? r with
  | none => exact ⟨0, .refl⟩
  | some got =>
    obtain ⟨received, r'⟩ := got
    have hsetup : (∀ e, received = .event e → e = .setupRequired) →
        ReflTransGen Step ⟨b, calls, t, r, none, log⟩
          ⟨b, calls, (t.setup b).2, r', none, List.replicate 1 .began ++ log⟩ := by
      intro hasked
      rw [setup_eq]
      exact .head (.begin hreceive hasked) (run_of_setup b calls t.bare r' _ t.wanted [])
    cases received with
    | lagged n => exact ⟨1, hsetup (by simp)⟩
    | event e =>
      simp only [Tab.hear, Tab.handle]
      by_cases he : e = .setupRequired
      · rw [if_pos he]
        exact ⟨1, hsetup (by simp [he])⟩
      · rw [if_neg he]
        exact ⟨0, .single (.ignore hreceive he)⟩

/-- **A listener can always catch up**, however far it has fallen behind. -/
theorem exists_caught_up {es : List Event} (hevents : b.events = Channel.empty.sendAll es)
    {r : ℕ} (hr : r ≤ es.length) (calls : List Call) (t : Tab) (log : List Occurrence) :
    ∃ t' n, t'.settings = t.settings ∧ ReflTransGen Step ⟨b, calls, t, r, none, log⟩
      ⟨b, calls, t', es.length, none, List.replicate n .began ++ log⟩ := by
  -- on how much is left, of which one round may skip many events
  induction hn : es.length - r using Nat.strong_induction_on generalizing r t log with
  | _ left ih =>
    by_cases hend : r = es.length
    · subst hend
      exact ⟨t, 0, rfl, .refl⟩
    · obtain ⟨received, r', hreceive, hlt, hle⟩ :=
        Channel.exists_receive? (Nat.lt_of_le_of_ne hr hend)
      rw [← hevents] at hreceive
      obtain ⟨n, hround⟩ := run_of_round b calls t r log true
      simp only [Listener.step, hreceive] at hround
      obtain ⟨t', m, hsettings, hrest⟩ :=
        ih (es.length - r') (by omega) hle (t.hear b received) (List.replicate n .began ++ log) rfl
      refine ⟨t', m + n, hsettings.trans ?_, ?_⟩
      · cases received with
        | lagged n => rfl
        | event e =>
          rw [Tab.hear, Tab.handle]
          split_ifs <;> rfl
      · rw [List.replicate_add, List.append_assoc]
        exact hround.trans hrest

/-! ### Requests -/

/-- **No request is lost.**  When a listener has read all that was sent and there was a request among
it, then a setup began after the last one.  If no call is on its way any more that has changed an
allow-list or the store, nobody else touched the settings or the lists of the tab since that setup
began, and the setup is over, then the tab has the lists that its settings ask for and that are in
the store, in their order, or none if blocking is off. -/
theorem installed_of_run (hevents : b.events = Channel.empty.sendAll before)
    (hrun : ReflTransGen Step (start b calls t) v) (hread : v.cursor = v.blocker.events.sent)
    (hasked : .sent .setupRequired ∈ v.log) :
    .began ∈ v.log ∧ .sent .setupRequired ∉ sinceSetup v.log ∧
      (v.Quiet → .disturbed ∉ sinceSetup v.log → v.setup? = none →
        v.tab.host.installed =
          if v.tab.settings.isEnabled then
            (v.tab.settings.enabledLists.filter fun l =>
              (v.blocker.compiler.store.lookup l.filename v.blocker.disk).isOk).map
                Blocklist.filename
          else []) := by
  have h := sound_of_run (sound_start hevents calls t) hrun
  have hunread : v.unread before = [] := by
    rw [unread, hread, h.history, Channel.sent_sendAll_empty, List.drop_length]
  have hanswered : .sent .setupRequired ∉ sinceSetup v.log := fun hmem => by
    have hmem' := h.asked hmem
    rw [hunread] at hmem'
    exact absurd hmem' List.not_mem_nil
  have hbegan : .began ∈ v.log := by
    by_contra hnot
    rw [Occurrence.sinceSetup_of_not_mem hnot] at hanswered
    exact hanswered hasked
  refine ⟨hbegan, hanswered, fun hquiet hsettled hidle => ?_⟩
  have hcurrent := h.current hbegan hquiet (by rw [hunread]; exact List.not_mem_nil) hsettled
  rw [IsCurrent, hidle] at hcurrent
  have hcurrent : v.tab.host.installed = v.blocker.compiler.installable v.tab.wanted := hcurrent
  rw [hcurrent, Tab.wanted]
  split_ifs
  · rfl
  · rfl

/-- More events follow a request than the channel keeps, and the tab gets its list all the same. -/
theorem installed_of_run_of_lag :
    let lists : Dict (List Rule) := .ofList [(Blocklist.trackingNetwork.filename, [])]
    let c : Compiler := { Compiler.uniform "[]" ⟨0⟩ with store := .memory lists 1 }
    let b : Blocker := .create .standard c none
    ∃ v v', ReflTransGen Step (start b [] (.create 1 none .standard)) v ∧
      .sent .setupRequired ∈ v.log ∧ .setupRequired ∉ v.blocker.events.kept ∧
      ReflTransGen Step v v' ∧ .began ∈ v'.log ∧
      v'.tab.host.installed = ["safari-tracking-network"] := by
  intro lists c b
  let others : List Event := List.replicate Channel.capacity (.statsChanged 2)
  let t : Tab := .create 1 none .standard
  let log : List Occurrence := (others.map .sent).reverse ++ [.sent .setupRequired]
  let b' : Blocker := { b with events := b.announce.events.sendAll others }
  have hothers : .setupRequired ∉ others := by simp [others]
  have hasked : ReflTransGen Step (start b [] t) ⟨b', [], t, 0, none, log⟩ :=
    .head .remind (run_of_sendAll hothers b.announce [] t 0 none [.sent .setupRequired])
  have hevents : b'.events = Channel.empty.sendAll (.setupRequired :: others) := rfl
  obtain ⟨t', n, hsettings, hrest⟩ := exists_caught_up hevents (Nat.zero_le _) [] t log
  have hbefore : b.events = Channel.empty.sendAll [] := rfl
  obtain ⟨hbegan, -, hinstalled⟩ := installed_of_run hbefore (hasked.trans hrest)
    (by rw [hevents, Channel.sent_sendAll_empty]) (by simp [log])
  have hdropped : .setupRequired ∉ b'.events.kept := by
    rw [hevents, Channel.kept_sendAll, List.length_cons, List.length_replicate,
      Nat.add_sub_cancel_left]
    exact hothers
  have hsettled : .disturbed ∉ sinceSetup (List.replicate n .began ++ log) := fun hmem => by
    have hmem := Occurrence.sinceSetup_subset _ hmem
    simp [log] at hmem
  have hinstalled := hinstalled (fun _ hmem => absurd hmem List.not_mem_nil) hsettled rfl
  simp only [hsettings] at hinstalled
  refine ⟨_, _, hasked, ?_, hdropped, hrest, hbegan, hinstalled.trans ?_⟩
  · exact List.mem_append_right _ (List.mem_singleton_self _)
  · decide

end Subscription

end ContentBlocking
