import ContentBlocking.Tab.Listener
import Mathlib.Data.List.Induction

/-!
# What receivers get

The state of a channel is a function of the events that were sent: it keeps the last ones
(`Channel.kept_sendAll`).  A receiver gets the next event of the history, or it learns that this one
is not kept any more and goes on with the oldest one that is (`Channel.receive?_sendAll`).
-/

namespace ContentBlocking.Channel

/-! ### Sending -/

theorem sent_send (c : Channel) (e : Event) : (c.send e).sent = c.sent + 1 := rfl

theorem sendAll_append (c : Channel) (es es' : List Event) :
    c.sendAll (es ++ es') = (c.sendAll es).sendAll es' := List.foldl_append

theorem sent_sendAll (c : Channel) (es : List Event) :
    (c.sendAll es).sent = c.sent + es.length := by
  induction es generalizing c with
  | nil => rfl
  | cons e es ih =>
    rw [sendAll, List.foldl_cons, ← sendAll, ih, sent_send, List.length_cons]
    omega

theorem getLast?_kept_send (c : Channel) (e : Event) : (c.send e).kept.getLast? = some e := by
  have hlt : (c.kept ++ [e]).length - capacity < (c.kept ++ [e]).length := by
    rw [List.length_append, List.length_singleton, capacity]
    omega
  rw [send, List.getLast?_drop, if_neg (by omega), List.getLast?_concat]

/-- If nothing changes, nothing was sent. -/
theorem eq_nil_of_sendAll_eq {c : Channel} {es : List Event} (h : c = c.sendAll es) : es = [] := by
  have hsent := congrArg sent h
  rw [sent_sendAll] at hsent
  exact List.length_eq_zero_iff.1 (by omega)

/-- What one event changes, only this event changes. -/
theorem eq_singleton_of_send_eq {c : Channel} {e : Event} {es : List Event}
    (h : c.send e = c.sendAll es) : es = [e] := by
  have hsent := congrArg sent h
  rw [sent_sendAll, sent_send] at hsent
  obtain ⟨e', rfl⟩ : ∃ e', es = [e'] := List.length_eq_one_iff.1 (by omega)
  have hlast := congrArg (·.kept.getLast?) h
  simp only [sendAll, List.foldl_cons, List.foldl_nil, getLast?_kept_send,
    Option.some.injEq] at hlast
  rw [hlast]

/-! ### Receiving -/

variable {es : List Event} {r r' : ℕ}

theorem sent_sendAll_empty (es : List Event) : (empty.sendAll es).sent = es.length := by
  rw [sent_sendAll]
  exact Nat.zero_add _

/-- A channel keeps the last events. -/
theorem kept_sendAll (es : List Event) :
    (empty.sendAll es).kept = es.drop (es.length - capacity) := by
  induction es using List.reverseRecOn with
  | nil => rfl
  | append_singleton es e ih =>
    have hsend : (empty.sendAll (es ++ [e])).kept =
        ((empty.sendAll es).send e).kept := by rw [sendAll_append]; rfl
    have hlength : (es.drop (es.length - capacity) ++ [e]).length - capacity +
        (es.length - capacity) = (es ++ [e]).length - capacity := by
      simp only [List.length_append, List.length_drop, List.length_singleton, capacity]
      omega
    rw [hsend, send]
    simp only [ih]
    rw [← hlength, ← List.drop_append_of_le_length (by omega), List.drop_drop, Nat.add_comm]

/-- **What a receiver gets next**: the event at its place of the history, or the news that it missed
all up to the oldest event that is kept. -/
theorem receive?_sendAll (h : r ≤ es.length) :
    (empty.sendAll es).receive? r =
      if r + capacity < es.length then
        some (.lagged (es.length - capacity - r), es.length - capacity)
      else es[r]?.map fun e => (.event e, r + 1) := by
  have hkept : (empty.sendAll es).kept.length = min es.length capacity := by
    rw [kept_sendAll, List.length_drop]
    omega
  have hmissed : (empty.sendAll es).missed r = es.length - capacity - r := by
    rw [missed, sent_sendAll_empty, hkept]
    omega
  rw [receive?, hmissed]
  by_cases hlag : r + capacity < es.length
  · have hplace : r + (es.length - capacity - r) = es.length - capacity := by omega
    rw [if_pos (by omega), if_pos hlag, hplace]
  · have hplace : es.length - capacity + (r - (es.length - min es.length capacity)) = r := by omega
    rw [if_neg (by omega), if_neg hlag, waiting, sent_sendAll_empty, hkept, kept_sendAll,
      List.drop_drop, List.head?_drop, hplace]

/-- A receiver that gets an event gets the first one it has not read; a receiver that lagged skips
some. -/
theorem receive?_cases {received : Received} (h : r ≤ es.length)
    (hreceive : (empty.sendAll es).receive? r = some (received, r')) :
    r' ≤ es.length ∧
      ((∃ e, received = .event e ∧ es.drop r = e :: es.drop r') ∨ ∃ n, received = .lagged n) := by
  rw [receive?_sendAll h] at hreceive
  split_ifs at hreceive with hlag
  · obtain ⟨rfl, rfl⟩ := Prod.mk.inj (Option.some.inj hreceive)
    exact ⟨Nat.sub_le _ _, .inr ⟨_, rfl⟩⟩
  · obtain ⟨e, he, heq⟩ := Option.map_eq_some_iff.1 hreceive
    obtain ⟨rfl, rfl⟩ := Prod.mk.inj heq
    obtain ⟨hlt, rfl⟩ := List.getElem?_eq_some_iff.1 he
    exact ⟨hlt, .inl ⟨_, rfl, List.drop_eq_getElem_cons hlt⟩⟩

/-- Something waits for a receiver until it is at the end. -/
theorem exists_receive? (h : r < es.length) :
    ∃ received r', (empty.sendAll es).receive? r = some (received, r') ∧ r < r' ∧
      r' ≤ es.length := by
  rw [receive?_sendAll (Nat.le_of_lt h)]
  by_cases hlag : r + capacity < es.length
  · rw [if_pos hlag]
    exact ⟨_, es.length - capacity, rfl, Nat.lt_sub_of_add_lt hlag, Nat.sub_le _ _⟩
  · rw [if_neg hlag, List.getElem?_eq_getElem h]
    exact ⟨_, r + 1, rfl, Nat.lt_succ_self r, h⟩

end ContentBlocking.Channel
