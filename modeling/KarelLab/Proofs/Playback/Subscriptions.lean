import Mathlib.Data.List.Nodup
import KarelLab.Proofs.Playback.Quiet

/-!
# Subscriptions and their handles

A handle ends a subscription, and it knows it by its listener only: it takes away the first entry of
that listener, whoever made it. For every sequence of subscriptions and calls of handles it is said
here when that comes to the same: a handle that is called for the first time may find no subscription
of another listener between one of its own listener and its own, and a handle that is called again
has to find no subscription of its listener at all.
-/

namespace KarelLab.Playback

def Player.Tells (p : Player) (ls : List Nat) : Prop :=
  ∀ (ε : Type) (e : Environment ε) (env : ε) (rest : List Frame) (waits : Nat), e.Quiet →
    ∃ n, Config.settle e n ⟨p, .notify p.listeners :: rest, waits, env, none⟩ =
      ⟨p, rest, waits, e.watch ls [p.beat] env, none⟩

private def roster : Environment (List Nat) where
  observe n told :=
    match n with
    | .changed l _ _ => told ++ [l]
    | .waited _ _ => told
  answer _ _ := none

private theorem roster_watch (p : Player) (ls told : List Nat) :
    roster.watch ls [p.beat] told = told ++ ls := by
  rw [Environment.watch_beat]
  induction ls generalizing told with
  | nil => exact (List.append_nil told).symm
  | cons l ls ih => exact (ih (told ++ [l])).trans (List.append_assoc told [l] ls)

/-- A player tells its listeners, and nobody else. -/
theorem Player.tells_iff {p : Player} {ls : List Nat} : p.Tells ls ↔ p.listeners = ls := by
  have htold {ε : Type} {e : Environment ε} (he : e.Quiet) (env : ε) (rest : List Frame)
      (waits : Nat) := Config.within_told he p.listeners
        (c := ⟨p, .notify p.listeners :: rest, waits, env, none⟩) rfl
  constructor
  · intro h
    obtain ⟨n, hn⟩ := h (List Nat) roster [] [] 0 fun _ _ => rfl
    -- both are what is left of the same configuration in the end
    have hend := (htold (e := roster) (fun _ _ => rfl) [] [] 0).settle_eq rfl (Nat.le_add_right _ n)
    rw [Nat.add_comm, Config.settle_add, hn, Config.settle_of_nil rfl] at hend
    have henv := congrArg Config.env hend
    simpa only [roster_watch, List.nil_append] using henv.symm
  · rintro rfl ε e env rest waits he
    obtain ⟨n, -, hn⟩ := htold he env rest waits
    exact ⟨n, hn⟩

/-! ## The first entry of a list and a later one -/

theorem append_cons_eq_cons_append_iff (bs after : List Nat) (l : Nat) :
    bs ++ l :: after = l :: (bs ++ after) ↔ ∀ b ∈ bs, b = l := by
  induction bs with
  | nil => simp
  | cons b bs ih =>
    rw [List.cons_append, List.cons_append, List.cons.injEq, List.forall_mem_cons]
    constructor
    · rintro ⟨rfl, h⟩
      exact ⟨rfl, ih.mp h⟩
    · rintro ⟨rfl, h⟩
      exact ⟨rfl, ih.mpr h⟩

/-- The first entry of a value is as good as a later one when nothing else stands in between. -/
theorem erase_append_cons_iff (before after : List Nat) (l : Nat) :
    (before ++ l :: after).erase l = before ++ after ↔
      before.Pairwise fun a b => a = l → b = l := by
  induction before with
  | nil => simp
  | cons b bs ih =>
    rw [List.pairwise_cons, List.cons_append, List.cons_append]
    by_cases hb : b = l
    · -- the head is taken away, so all that follows has to move up unnoticed
      subst hb
      rw [List.erase_cons_head, append_cons_eq_cons_append_iff]
      constructor
      · intro h
        exact ⟨fun c hc _ => h c hc, List.pairwise_of_forall_mem_list fun c _ d hd _ => h d hd⟩
      · rintro ⟨h, -⟩ c hc
        exact h c hc rfl
    · rw [List.erase_cons_tail (by simpa using hb), List.cons_inj_right]
      constructor
      · intro h
        exact ⟨fun _ _ hl => (hb hl).elim, ih.mp h⟩
      · rintro ⟨-, h⟩
        exact ih.mpr h

/-! ## Subscriptions -/

structure Subscription where
  listener : Nat
  ended : Bool := false
  deriving Repr, DecidableEq, Inhabited

def due (made : List Subscription) : List Nat := (made.filter (!·.ended)).map (·.listener)

theorem due_append (before after : List Subscription) :
    due (before ++ after) = due before ++ due after := by
  rw [due, List.filter_append, List.map_append, due, due]

theorem due_cons (s : Subscription) (made : List Subscription) :
    due (s :: made) = if s.ended then due made else s.listener :: due made := by
  cases hs : s.ended <;> simp [due, hs]

theorem mem_due {made : List Subscription} {l : Nat} :
    l ∈ due made ↔ ∃ s ∈ made, s.ended = false ∧ s.listener = l := by
  simp [due, and_assoc]

/-- A subscription is made, or the handle of one is called. Handles are numbered in the order in which
the subscriptions were made. -/
inductive SubscriptionCall
  | subscribe (listener : Nat)
  | handle (number : Nat)
  deriving Repr, DecidableEq, Inhabited

structure Roll where
  player : Player
  made : List Subscription

namespace Roll

def of (p : Player) : Roll := ⟨p, p.listeners.map fun l => { listener := l }⟩

def call (r : Roll) : SubscriptionCall → Roll
  | .subscribe l => ⟨r.player.subscribe l, r.made ++ [{ listener := l }]⟩
  | .handle k =>
    match r.made[k]? with
    | some s => ⟨r.player.unsubscribe s.listener, r.made.set k { s with ended := true }⟩
    | none => r

def after (r : Roll) (calls : List SubscriptionCall) : Roll := calls.foldl call r

/-- A notification calls the listeners of the subscriptions whose handles were not called, in the order
in which these were made. -/
def Faithful (r : Roll) : Prop := r.player.Tells (due r.made)

/-- Whether the handle of a subscription ends that one. -/
def Fits (r : Roll) (k : Nat) : Prop :=
  ∀ s, r.made[k]? = some s →
    if s.ended then s.listener ∉ due r.made
    else (due (r.made.take k)).Pairwise fun a b => a = s.listener → b = s.listener

variable {r : Roll}

theorem faithful_iff : r.Faithful ↔ r.player.listeners = due r.made := Player.tells_iff

theorem faithful_of (p : Player) : (of p).Faithful := by
  rw [faithful_iff]
  have hall : (of p).made.filter (!·.ended) = (of p).made := by
    rw [List.filter_eq_self, of, List.forall_mem_map]
    exact fun _ _ => rfl
  rw [due, hall, of, List.map_map]
  exact (List.map_id _).symm

theorem faithful_subscribe (h : r.Faithful) (l : Nat) : (r.call (.subscribe l)).Faithful := by
  rw [faithful_iff] at h ⊢
  rw [call, due_append, ← h]
  rfl

/-- The call of a handle ends its subscription and no other one exactly when it fits. -/
theorem faithful_handle_iff (h : r.Faithful) (k : Nat) :
    (r.call (.handle k)).Faithful ↔ r.Fits k := by
  rw [faithful_iff] at h ⊢
  cases hk : r.made[k]? with
  | none =>
    -- nobody was given this handle
    have hcall : r.call (.handle k) = r := by rw [call, hk]
    have hfits : r.Fits k := fun s hs => nomatch hk.symm.trans hs
    rw [hcall]
    exact ⟨fun _ => hfits, fun _ => h⟩
  | some s =>
    obtain ⟨hlt, hs⟩ := List.getElem?_eq_some_iff.mp hk
    -- what is due before and after the call differs by this subscription at most
    have hsplit : r.made = r.made.take k ++ s :: r.made.drop (k + 1) := by
      rw [← hs, List.getElem_cons_drop, List.take_append_drop]
    have hset : r.made.set k { s with ended := true } =
        r.made.take k ++ { s with ended := true } :: r.made.drop (k + 1) :=
      List.set_eq_take_append_cons_drop.trans (if_pos hlt)
    have hwanted : due (r.made.set k { s with ended := true }) =
        due (r.made.take k) ++ due (r.made.drop (k + 1)) := by
      rw [hset, due_append, due_cons, if_pos rfl]
    have hdue : due r.made = due (r.made.take k) ++
        if s.ended then due (r.made.drop (k + 1)) else s.listener :: due (r.made.drop (k + 1)) := by
      rw [← due_cons, ← due_append, ← hsplit]
    have hcall : r.call (.handle k) =
        ⟨r.player.unsubscribe s.listener, r.made.set k { s with ended := true }⟩ := by
      rw [call, hk]
    have hfits : r.Fits k ↔ if s.ended then s.listener ∉ due r.made
        else (due (r.made.take k)).Pairwise fun a b => a = s.listener → b = s.listener := by
      rw [Fits, hk]
      simp
    rw [hcall, hfits]
    change r.player.listeners.erase s.listener = due (r.made.set k _) ↔ _
    rw [h, hwanted]
    by_cases hended : s.ended = true
    · -- nothing is due of this subscription, so that nothing may be taken away
      rw [if_pos hended] at hdue ⊢
      rw [← hdue, List.erase_eq_self_iff]
    · rw [if_neg hended] at hdue ⊢
      rw [hdue, erase_append_cons_iff]

/-- What the handles do is right at all times exactly when every handle that is called fits. -/
theorem faithful_iff_fits (h : r.Faithful) (calls : List SubscriptionCall) :
    (∀ n, (r.after (calls.take n)).Faithful) ↔
      ∀ n k, calls[n]? = some (.handle k) → (r.after (calls.take n)).Fits k := by
  have hnext (n : Nat) (c : SubscriptionCall) (hc : calls[n]? = some c) :
      r.after (calls.take (n + 1)) = (r.after (calls.take n)).call c := by
    rw [List.take_add_one, hc, Option.toList_some, after, List.foldl_append]
    rfl
  constructor
  · intro hall n k hk
    have hlater := hall (n + 1)
    rw [hnext n _ hk] at hlater
    exact (faithful_handle_iff (hall n) k).mp hlater
  · intro hfits n
    -- on the number of calls, of which each keeps what was right before
    induction n with
    | zero => exact h
    | succ n ih =>
      cases hc : calls[n]? with
      | none =>
        rw [List.take_of_length_le (Nat.le_succ_of_le (List.getElem?_eq_none_iff.mp hc))]
        rwa [List.take_of_length_le (List.getElem?_eq_none_iff.mp hc)] at ih
      | some c =>
        rw [hnext n c hc]
        cases c with
        | subscribe l => exact faithful_subscribe ih l
        | handle k => exact (faithful_handle_iff ih k).mpr (hfits n k hc)

/-- A handle fits if no listener was subscribed twice. -/
theorem fits_of_nodup (h : (r.made.map (·.listener)).Nodup) (k : Nat) : r.Fits k := by
  intro s hs
  have hmem : s ∈ r.made := List.mem_of_getElem? hs
  split
  · rename_i hended
    intro hdue
    -- an open subscription of the same listener would be this one, which has ended
    obtain ⟨t, ht, hopen, hlistener⟩ := mem_due.mp hdue
    obtain rfl : t = s := List.inj_on_of_nodup_map h ht hmem hlistener
    rw [hended] at hopen
    cases hopen
  · have hlast : s ∈ r.made.drop k :=
      List.mem_of_getElem? (i := 0) (by rw [List.getElem?_drop]; exact hs)
    rw [List.nodup_iff_pairwise_ne, List.pairwise_map, ← List.take_append_drop k r.made,
      List.pairwise_append] at h
    -- an entry before it has another listener
    refine List.pairwise_of_forall_mem_list fun a ha b _ hab => ?_
    obtain ⟨t, ht, -, rfl⟩ := mem_due.mp ha
    exact (h.2.2 t ht s hlast hab).elim

/-- Subscriptions are never forgotten, and their listeners never change. -/
theorem listeners_after (calls : List SubscriptionCall) :
    r.made.map (·.listener) <+: (r.after calls).made.map (·.listener) := by
  induction calls generalizing r with
  | nil => exact List.prefix_rfl
  | cons c calls ih =>
    refine List.IsPrefix.trans ?_ (ih (r := r.call c))
    cases c with
    | subscribe l =>
      rw [call, List.map_append]
      exact List.prefix_append _ _
    | handle k =>
      rw [call]
      split
      · rename_i s hs
        have hsame : (r.made.map (·.listener))[k]? = some s.listener := by
          rw [List.getElem?_map, hs, Option.map_some]
        obtain ⟨hlt, hself⟩ := List.getElem?_eq_some_iff.mp hsame
        have hkept : (r.made.set k { s with ended := true }).map (·.listener) =
            r.made.map (·.listener) := by
          rw [List.map_set, ← hself, List.set_getElem_self]
        exact hkept ▸ List.prefix_rfl
      · exact List.prefix_rfl

/-- The listeners of exactly those subscriptions whose handles were not called are told, in the order in
which the subscriptions were made, as long as every handle that is called fits, and only so long. That
is always the case if no listener is subscribed twice. -/
theorem handles_end_their_own_iff (p : Player) (calls : List SubscriptionCall) :
    ((∀ n, ((of p).after (calls.take n)).Faithful) ↔
      ∀ n k, calls[n]? = some (.handle k) → ((of p).after (calls.take n)).Fits k) ∧
    ((((of p).after calls).made.map (·.listener)).Nodup →
      ∀ n, ((of p).after (calls.take n)).Faithful) := by
  have hiff := faithful_iff_fits (faithful_of p) calls
  refine ⟨hiff, fun hnodup => hiff.mpr fun n k _ => fits_of_nodup ?_ k⟩
  have hlater : (of p).after calls = ((of p).after (calls.take n)).after (calls.drop n) := by
    rw [after, after, after, ← List.foldl_append, List.take_append_drop]
  rw [hlater] at hnodup
  exact hnodup.sublist (listeners_after _).sublist

/-- A handle that is called twice ends the subscription that another call made. -/
theorem handle_called_twice :
    ¬ ∀ (p : Player) (calls : List SubscriptionCall), ((of p).after calls).Faithful := by
  intro h
  have hcalls := h default [.subscribe 0, .subscribe 0, .handle 1, .handle 1]
  rw [faithful_iff] at hcalls
  exact absurd hcalls (by decide)

end Roll

end KarelLab.Playback
