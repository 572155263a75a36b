import StratumBridge.Proxy.Sessions

/-!
# The registry and the live sessions

The registry knows a wallet by name and a session only by its channel.  A session that
becomes another wallet leaves the former behind, one whose handler panics leaves its
wallet behind, and the end of a session takes the wallet away from whoever else is
confirmed as it.  As long as none of it happens, the registry has just the wallets of the
live sessions, and the end of a session takes nothing from another.
-/

namespace StratumBridge.Proxy

open Data Rpc Transition

/-- A wallet is registered just when a live session is confirmed as it, and then with
the channel of such a session. -/
structure Mirrors (listener : Listener) : Prop where
  registered : ∀ wallet, listener.registry.Registered wallet ↔ ∃ tx, listener.LiveAs tx wallet
  channel : ∀ wallet tx, listener.registry.get wallet = some tx → listener.LiveAs tx wallet

/-- A step of the end of a session leaves the other live sessions their registration,
their capabilities and the assignments they serve. -/
structure Spares (before : Listener) (tx : Channel) (after : Listener) : Prop where
  registration : ∀ other wallet, other ≠ tx → before.LiveAs other wallet →
    after.registry.get wallet = before.registry.get wallet
  capabilities : ∀ other wallet, other ≠ tx → before.LiveAs other wallet →
    (wallet ∈ after.registry.draftCapable ↔ wallet ∈ before.registry.draftCapable) ∧
      (wallet ∈ after.registry.auditorCapable ↔ wallet ∈ before.registry.auditorCapable) ∧
      after.registry.expertCapableVram wallet = before.registry.expertCapableVram wallet
  assignments : ∀ assignment ∈ before.held, assignment.tx ≠ tx →
    before.LiveAs assignment.tx assignment.wallet → assignment ∈ after.held

/-- The session whose end an event is a step of. -/
def ListenerEvent.endOf : ListenerEvent → Option Channel
  | ended tx => some tx
  | panicked tx => some tx
  | told tx => some tx
  | tornDown tx => some tx
  | _ => none

/-- The condition on a step: no session is confirmed as a wallet while the registry
has its channel for another one, no session ends while another is confirmed as its
wallet, no handler panics in a session whose channel the registry has, and no handler is
told of an end while the wallet has an assignment of it at a session that is live. -/
def Alone (serde : Serde) (listener : Listener) : ListenerEvent → Prop
  | .inside tx (.poolLine line) =>
      ∀ session wallet previous, listener.sessions tx = some session →
        confirming serde line = true → session.auth.pending = some wallet →
        session.auth.confirmed = some previous →
          previous = wallet ∨ listener.registry.get previous ≠ some tx
  | .ended tx =>
      ∀ session wallet other, listener.sessions tx = some session →
        session.auth.confirmed = some wallet → listener.LiveAs other wallet → other = tx
  | .panicked tx => ∀ wallet, listener.registry.get wallet ≠ some tx
  | .told tx =>
      ∀ wallet handler handlers, listener.cleanups tx = some ⟨wallet, handler :: handlers⟩ →
        ∀ assignment ∈ listener.held, assignment.handler = handler →
          assignment.wallet = wallet → ¬ listener.LiveAs assignment.tx wallet
  | _ => True

namespace Listener

variable {serde : Serde} {listener : Listener} {session after : Session} {tx other : Channel}
  {wallet : Wallet}

/-! ## Live sessions -/

theorem session?_eq_some_iff : listener.session? tx = some session ↔
    ∃ held, listener.sessions tx = some held ∧
      { held with registry := listener.registry } = session := by
  rw [session?, Option.map_eq_some_iff]

theorem liveAs_put_self : (listener.put tx after).LiveAs tx wallet ↔
    after.phase = .relaying ∧ after.auth.confirmed = some wallet := by
  constructor
  · rintro ⟨session, found, relaying, confirmed⟩
    cases Option.some.inj ((PartialMap.insert_self ..).symm.trans found)
    exact ⟨relaying, confirmed⟩
  · rintro ⟨relaying, confirmed⟩
    exact ⟨after, PartialMap.insert_self .., relaying, confirmed⟩

theorem liveAs_put_of_ne (ne : other ≠ tx) : (listener.put tx after).LiveAs other wallet ↔
    listener.LiveAs other wallet := by
  have same : (listener.put tx after).sessions other = listener.sessions other :=
    PartialMap.insert_of_ne _ _ ne
  rw [LiveAs, same, LiveAs]

/-- A session as it stands is live as its wallet. -/
theorem liveAs_of_session? (found : listener.session? tx = some session) :
    listener.LiveAs tx wallet ↔ session.phase = .relaying ∧
      session.auth.confirmed = some wallet := by
  obtain ⟨held, stands, rfl⟩ := session?_eq_some_iff.mp found
  constructor
  · rintro ⟨other, alsoStands, relaying, confirmed⟩
    cases Option.some.inj (stands.symm.trans alsoStands)
    exact ⟨relaying, confirmed⟩
  · rintro ⟨relaying, confirmed⟩
    exact ⟨held, stands, relaying, confirmed⟩

/-! ## What is kept -/

/-- What every step keeps. -/
structure Kept (listener : Listener) : Prop where
  own : ∀ tx session, listener.sessions tx = some session → session.tx = tx
  channel : ∀ wallet tx, listener.registry.get wallet = some tx → listener.LiveAs tx wallet
  bound : ∀ tx wallet, listener.LiveAs tx wallet → listener.registry.Registered wallet

theorem kept_start : Kept start where
  own tx session found := by cases found
  channel wallet tx found := by cases found
  bound tx wallet live := by
    rcases live with ⟨session, found, -⟩
    cases found

theorem Kept.mirrors (kept : Kept listener) : Mirrors listener where
  registered wallet := by
    constructor
    · rintro ⟨tx, found⟩
      exact ⟨tx, kept.channel wallet tx found⟩
    · rintro ⟨tx, live⟩
      exact kept.bound tx wallet live
  channel := kept.channel

/-- Neither the channels nor who is live change. -/
theorem Kept.same {next : Listener} (kept : Kept listener)
    (own : ∀ tx session, next.sessions tx = some session → session.tx = tx)
    (get : ∀ wallet, next.registry.get wallet = listener.registry.get wallet)
    (live : ∀ tx wallet, next.LiveAs tx wallet ↔ listener.LiveAs tx wallet) : Kept next where
  own := own
  channel := by
    intro wallet tx found
    rw [get] at found
    exact (live tx wallet).mpr (kept.channel wallet tx found)
  bound := by
    intro tx wallet lives
    obtain ⟨channel, found⟩ := kept.bound tx wallet ((live tx wallet).mp lives)
    exact ⟨channel, (get wallet).trans found⟩

theorem Kept.own_put (kept : Kept listener) (mine : after.tx = tx) :
    ∀ other session, (listener.put tx after).sessions other = some session →
      session.tx = other := by
  intro other session found
  by_cases same : other = tx
  · subst same
    cases Option.some.inj ((PartialMap.insert_self ..).symm.trans found)
    exact mine
  · exact kept.own other session ((PartialMap.insert_of_ne _ _ same).symm.trans found)

/-- A session goes on as who it was. -/
theorem Kept.put (kept : Kept listener) (mine : after.tx = tx)
    (live : ∀ wallet, (after.phase = .relaying ∧ after.auth.confirmed = some wallet) ↔
      listener.LiveAs tx wallet)
    (get : ∀ wallet, after.registry.get wallet = listener.registry.get wallet) :
    Kept (listener.put tx after) := by
  refine kept.same (kept.own_put mine) get ?_
  intro other wallet
  by_cases same : other = tx
  · subst same
    exact liveAs_put_self.trans (live wallet)
  · exact liveAs_put_of_ne same

/-- A session is confirmed, and leaves no other wallet behind. -/
theorem Kept.confirms (kept : Kept listener) (mine : after.tx = tx)
    (relaying : after.phase = .relaying) (confirmed : after.auth.confirmed = some wallet)
    (registered : after.registry = listener.registry.register wallet tx)
    (leaves : ∀ previous, listener.LiveAs tx previous →
      previous = wallet ∨ listener.registry.get previous ≠ some tx) :
    Kept (listener.put tx after) := by
  have get (other : Wallet) : (listener.put tx after).registry.get other =
      (listener.registry.register wallet tx).get other := by
    rw [← registered]
    rfl
  refine ⟨kept.own_put mine, ?_, ?_⟩
  · intro found channel bound
    rw [get] at bound
    by_cases same : found = wallet
    · subst same
      rw [MinerRegistry.get_register_self] at bound
      cases bound
      exact liveAs_put_self.mpr ⟨relaying, confirmed⟩
    · rw [MinerRegistry.get_register_of_ne _ _ same] at bound
      have live := kept.channel found channel bound
      by_cases here : channel = tx
      · subst here
        rcases leaves found live with isWallet | unbound
        · exact absurd isWallet same
        · exact absurd bound unbound
      · exact (liveAs_put_of_ne here).mpr live
  · intro channel found live
    by_cases same : found = wallet
    · subst same
      exact ⟨tx, (get found).trans (MinerRegistry.get_register_self ..)⟩
    · have before : listener.LiveAs channel found := by
        by_cases here : channel = tx
        · subst here
          have other := (liveAs_put_self.mp live).2
          exact absurd (Option.some.inj (other.symm.trans confirmed)) same
        · exact (liveAs_put_of_ne here).mp live
      obtain ⟨bound, stands⟩ := kept.bound channel found before
      exact ⟨bound, (get found).trans ((MinerRegistry.get_register_of_ne _ _ same).trans stands)⟩

/-- A session ends that is the only one of its wallet. -/
theorem Kept.finish (kept : Kept listener) (found : listener.session? tx = some session)
    (alone : ∀ wallet other, session.auth.confirmed = some wallet →
      listener.LiveAs other wallet → other = tx) : Kept (listener.put tx session.finish) := by
  obtain ⟨held, stands, rfl⟩ := session?_eq_some_iff.mp found
  have mine : held.tx = tx := kept.own tx held stands
  have dead (wallet : Wallet) :
      ¬ (listener.put tx (Session.finish { held with registry := listener.registry })).LiveAs tx
        wallet := by
    intro live
    have phase := (liveAs_put_self.mp live).1
    cases phase
  cases confirmed : held.auth.confirmed with
  | none =>
      have registry : (Session.finish { held with registry := listener.registry }).registry =
          listener.registry := by
        simp only [Session.finish, confirmed]
      refine kept.put mine ?_ ?_
      · intro wallet
        rw [liveAs_of_session? found]
        simp [Session.finish, confirmed]
      · intro wallet
        rw [registry]
  | some wallet =>
      have registry : (listener.put tx (Session.finish
          { held with registry := listener.registry })).registry =
          listener.registry.unregister wallet := by
        simp only [Listener.put, Session.finish, confirmed]
      refine ⟨kept.own_put mine, ?_, ?_⟩
      · intro other channel bound
        rw [registry] at bound
        by_cases same : other = wallet
        · subst same
          rw [MinerRegistry.get_unregister_self] at bound
          cases bound
        · rw [MinerRegistry.get_unregister_of_ne _ same] at bound
          have live := kept.channel other channel bound
          by_cases here : channel = tx
          · subst here
            have isOther := ((liveAs_of_session? found).mp live).2
            exact absurd (Option.some.inj (isOther.symm.trans confirmed)) same
          · exact (liveAs_put_of_ne here).mpr live
      · intro channel other live
        have here : channel ≠ tx := by
          rintro rfl
          exact dead other live
        have before := (liveAs_put_of_ne here).mp live
        have same : other ≠ wallet := by
          rintro rfl
          exact here (alone other channel confirmed before)
        obtain ⟨bound, stands⟩ := kept.bound channel other before
        refine ⟨bound, ?_⟩
        rw [registry, MinerRegistry.get_unregister_of_ne _ same]
        exact stands

/-- A session dies whose channel the registry does not have. -/
theorem Kept.die (kept : Kept listener) (found : listener.session? tx = some session)
    (unbound : ∀ wallet, listener.registry.get wallet ≠ some tx) :
    Kept (listener.put tx session.die) := by
  obtain ⟨held, stands, rfl⟩ := session?_eq_some_iff.mp found
  refine ⟨kept.own_put (kept.own tx held stands), ?_, ?_⟩
  · intro wallet channel bound
    have here : channel ≠ tx := by
      rintro rfl
      exact unbound wallet bound
    exact (liveAs_put_of_ne here).mpr (kept.channel wallet channel bound)
  · intro channel wallet live
    have here : channel ≠ tx := by
      rintro rfl
      cases (liveAs_put_self.mp live).1
    exact kept.bound channel wallet ((liveAs_put_of_ne here).mp live)

/-- Every step keeps it. -/
theorem Kept.next {event : ListenerEvent} (kept : Kept listener)
    (enabled : listener.enabled event) (alone : Alone serde listener event) :
    Kept (listener.next serde event) := by
  cases event with
  | accepted tx =>
      have fresh : listener.sessions tx = none := enabled
      have absent (wallet : Wallet) : ¬ listener.LiveAs tx wallet := by
        rintro ⟨session, found, -⟩
        cases fresh.symm.trans found
      have nobody (wallet : Wallet) : ((Session.start tx listener.registry).phase = .relaying ∧
          (Session.start tx listener.registry).auth.confirmed = some wallet) ↔
          listener.LiveAs tx wallet := by
        simp [Session.start, absent wallet]
      exact kept.put rfl nobody fun _ => rfl
  | inside tx event =>
      rcases enabled with ⟨own, session, found, may⟩
      have moves : Moves serde session event (session.next serde event) := next_moves own
      obtain ⟨held, stands, rfl⟩ := session?_eq_some_iff.mp found
      have mine : held.tx = tx := kept.own tx held stands
      simp only [Listener.next, found]
      cases moves with
      | stays fixed confirmed bound =>
          refine kept.put (fixed.1.trans mine) ?_ bound
          intro wallet
          rw [liveAs_of_session? found, fixed.2, confirmed]
      | confirms fixed line wallet isLine positive waits confirmed registered =>
          subst isLine
          have relaying : held.phase = .relaying := may.1
          refine kept.confirms (fixed.1.trans mine) (fixed.2.trans relaying) confirmed ?_ ?_
          · rw [registered, mine]
          · intro previous live
            have was := ((liveAs_of_session? found).mp live).2
            exact alone held wallet previous stands positive waits was
  | ended tx =>
      rcases enabled with ⟨session, found, -⟩
      obtain ⟨held, stands, rfl⟩ := session?_eq_some_iff.mp found
      have ends := kept.finish found fun wallet other confirmed live =>
        alone held wallet other stands confirmed live
      simp only [Listener.next, Listener.endSession, found]
      split
      · exact ends
      · exact ⟨ends.own, ends.channel, ends.bound⟩
  | panicked tx =>
      rcases enabled with ⟨session, found, -⟩
      simp only [Listener.next, found]
      exact kept.die found alone
  | told tx =>
      rcases enabled with ⟨wallet, handler, handlers, cleanup⟩
      simp only [Listener.next, Listener.tell, cleanup]
      exact ⟨kept.own, kept.channel, kept.bound⟩
  | tornDown tx =>
      rcases enabled with ⟨⟨session, found, ending⟩, -⟩
      obtain ⟨held, stands, rfl⟩ := session?_eq_some_iff.mp found
      simp only [Listener.next, found]
      refine kept.put (kept.own tx held stands) ?_ fun _ => rfl
      intro wallet
      rw [liveAs_of_session? found]
      have phase : held.phase = .ending := ending
      simp [Session.abort, phase]
  | assigned handler wallet =>
      simp only [Listener.next, Listener.assign]
      split
      · exact kept
      · exact ⟨kept.own, kept.channel, kept.bound⟩
  | settled left => exact ⟨kept.own, kept.channel, kept.bound⟩
  | banned wallet => exact kept.same kept.own (fun _ => rfl) fun _ _ => Iff.rfl

/-! ## The end of a session -/

theorem spares_of_same {next : Listener} (registry : next.registry = listener.registry)
    (held : ∀ assignment ∈ listener.held,
      listener.LiveAs assignment.tx assignment.wallet → assignment ∈ next.held) :
    Spares listener tx next where
  registration other wallet _ _ := by rw [registry]
  capabilities other wallet _ _ := by rw [registry]; exact ⟨Iff.rfl, Iff.rfl, rfl⟩
  assignments assignment mem _ live := held assignment mem live

/-- A wallet is unregistered that no other session is live as. -/
theorem spares_unregister {next : Listener} {gone : Wallet}
    (registry : next.registry = listener.registry.unregister gone)
    (held : next.held = listener.held)
    (alone : ∀ other, listener.LiveAs other gone → other = tx) : Spares listener tx next := by
  have stays (other : Channel) (wallet : Wallet) (elsewhere : other ≠ tx)
      (live : listener.LiveAs other wallet) : wallet ≠ gone := by
    rintro rfl
    exact elsewhere (alone other live)
  constructor
  · intro other wallet elsewhere live
    rw [registry]
    exact MinerRegistry.get_unregister_of_ne _ (stays other wallet elsewhere live)
  · intro other wallet elsewhere live
    have ne := stays other wallet elsewhere live
    rw [registry, MinerRegistry.unregister]
    refine ⟨?_, ?_, PartialMap.remove_of_ne _ ne⟩
    · exact Finset.mem_erase.trans (and_iff_right ne)
    · exact Finset.mem_erase.trans (and_iff_right ne)
  · intro assignment mem _ _
    rw [held]
    exact mem

/-- The end of a session spares the others. -/
theorem spares_of_alone {event : ListenerEvent} (enabled : listener.enabled event)
    (alone : Alone serde listener event) (isEnd : event.endOf = some tx) :
    Spares listener tx (listener.next serde event) := by
  cases event with
  | ended ending =>
      cases isEnd
      rcases enabled with ⟨session, found, -⟩
      obtain ⟨held, stands, rfl⟩ := session?_eq_some_iff.mp found
      simp only [Listener.next, Listener.endSession, found]
      cases confirmed : held.auth.confirmed with
      | none =>
          refine spares_of_same ?_ fun _ mem _ => mem
          simp only [Listener.put, Session.finish, confirmed]
      | some wallet =>
          refine spares_unregister ?_ rfl fun other live =>
            alone held wallet other stands confirmed live
          simp only [Listener.put, Session.finish, confirmed]
  | panicked dying =>
      cases isEnd
      rcases enabled with ⟨session, found, -⟩
      obtain ⟨held, stands, rfl⟩ := session?_eq_some_iff.mp found
      simp only [Listener.next, found]
      exact spares_of_same rfl fun _ mem _ => mem
  | told telling =>
      cases isEnd
      rcases enabled with ⟨wallet, handler, handlers, cleanup⟩
      simp only [Listener.next, Listener.tell, cleanup]
      refine spares_of_same rfl ?_
      intro assignment mem live
      refine List.mem_filter.mpr ⟨mem, decide_eq_true ?_⟩
      rintro ⟨theirs, same⟩
      rw [same] at live
      exact alone wallet handler handlers cleanup assignment mem theirs same live
  | tornDown ending =>
      cases isEnd
      rcases enabled with ⟨⟨session, found, -⟩, -⟩
      obtain ⟨held, stands, rfl⟩ := session?_eq_some_iff.mp found
      simp only [Listener.next, found]
      exact spares_of_same rfl fun _ mem _ => mem
  | _ => cases isEnd

/-- As long as no session shares its wallet with another when it ends, none becomes
another wallet while it is registered, and none dies of a panic while its channel is
registered, the registry mirrors the live sessions, and the end of a session spares the
others. -/
theorem mirrors_of_run {events : List ListenerEvent}
    (run : (system serde).RunWith (Alone serde) start events listener) :
    Mirrors listener ∧ ∀ event tx, listener.enabled event → Alone serde listener event →
      event.endOf = some tx → Spares listener tx (listener.next serde event) := by
  have kept : Kept listener :=
    run.invariant kept_start fun _ _ kept enabled alone => kept.next enabled alone
  exact ⟨kept.mirrors, fun _ _ enabled alone isEnd => spares_of_alone enabled alone isEnd⟩

/-- Where another session is live as the wallet of the one that ends, the wallet is lost
to it. -/
theorem not_mirrors_of_shared (found : listener.session? tx = some session)
    (confirmed : session.auth.confirmed = some wallet) (elsewhere : other ≠ tx)
    (live : listener.LiveAs other wallet) : ¬ Mirrors (listener.endSession tx) := by
  intro mirrors
  have registry : (listener.endSession tx).registry = session.registry.unregister wallet := by
    simp only [Listener.endSession, found, confirmed, Listener.put, Session.finish]
  have still : (listener.endSession tx).LiveAs other wallet := by
    simp only [Listener.endSession, found, confirmed]
    exact (liveAs_put_of_ne elsewhere).mpr live
  obtain ⟨channel, bound⟩ := (mirrors.registered wallet).mpr ⟨other, still⟩
  rw [registry, MinerRegistry.get_unregister_self] at bound
  cases bound

/-- Where a handler panics in a session whose channel the registry has, the wallet stays
registered with nobody behind it. -/
theorem not_mirrors_of_panicked (found : listener.session? tx = some session)
    (bound : listener.registry.get wallet = some tx) :
    ¬ Mirrors (listener.next serde (.panicked tx)) := by
  obtain ⟨held, stands, rfl⟩ := session?_eq_some_iff.mp found
  simp only [Listener.next, found]
  intro mirrors
  cases (liveAs_put_self.mp (mirrors.channel wallet tx bound)).1

/-! ## One wallet, two sessions -/

/-- A miner connects and is authorized. -/
def authorizing (tx : Channel) : List ListenerEvent :=
  [.accepted tx, .inside tx (.minerLine authorizeLine), .inside tx (.poolLine authorizedLine)]

/-- A session ends, and every handler is told. -/
def ending (tx : Channel) : List ListenerEvent :=
  [.ended tx, .told tx, .told tx, .told tx, .told tx, .told tx, .tornDown tx]

/-- An event of one session leaves the others as they are. -/
theorem sessions_inside_of_ne (serde : Serde) (event : Event) (ne : other ≠ tx) :
    (listener.next serde (.inside tx event)).sessions other = listener.sessions other := by
  simp only [Listener.next]
  split
  · rfl
  · exact PartialMap.insert_of_ne _ _ ne

theorem sessions_authorized (ne : other ≠ 0) :
    ((system sampleSerde).execute start (authorizing 0)).sessions other = none := by
  have accepted : (start.next sampleSerde (.accepted 0)).sessions other = none :=
    PartialMap.insert_of_ne _ _ ne
  have asked := (sessions_inside_of_ne sampleSerde (.minerLine authorizeLine) ne).trans accepted
  exact (sessions_inside_of_ne sampleSerde (.poolLine authorizedLine) ne).trans asked

/-- A miner comes back after its session has ended. -/
theorem mirrors_reconnected : ∃ listener,
    (system sampleSerde).RunWith (Alone sampleSerde) start
      (authorizing 0 ++ ending 0 ++ authorizing 1) listener ∧
    listener.registry.get "w" = some 1 ∧ Mirrors listener := by
  have admitted : (system sampleSerde).Admits (Alone sampleSerde) start
      (authorizing 0 ++ ending 0 ++ authorizing 1) := by
    refine ⟨⟨rfl, trivial⟩, ⟨⟨rfl, _, rfl, rfl, rfl, by decide⟩, trivial⟩,
      ⟨⟨rfl, _, rfl, rfl, by decide⟩, ?_⟩, ⟨⟨_, rfl, rfl⟩, ?_⟩,
      ⟨⟨_, _, _, rfl⟩, ?_⟩, ⟨⟨_, _, _, rfl⟩, ?_⟩, ⟨⟨_, _, _, rfl⟩, ?_⟩, ⟨⟨_, _, _, rfl⟩, ?_⟩,
      ⟨⟨_, _, _, rfl⟩, ?_⟩, ⟨⟨⟨_, rfl, rfl⟩, ?_⟩, trivial⟩,
      ⟨rfl, trivial⟩, ⟨⟨rfl, _, rfl, rfl, rfl, by decide⟩, trivial⟩,
      ⟨⟨rfl, _, rfl, rfl, by decide⟩, ?_⟩, trivial⟩
    · intro session wallet previous found _ _ was
      cases found
      cases was
    · intro session wallet other found confirmed live
      by_contra ne
      rcases live with ⟨_, stands, -⟩
      cases (sessions_authorized ne).symm.trans stands
    · exact fun _ _ _ _ _ mem => absurd mem List.not_mem_nil
    · exact fun _ _ _ _ _ mem => absurd mem List.not_mem_nil
    · exact fun _ _ _ _ _ mem => absurd mem List.not_mem_nil
    · exact fun _ _ _ _ _ mem => absurd mem List.not_mem_nil
    · exact fun _ _ _ _ _ mem => absurd mem List.not_mem_nil
    · intro cleanup found
      cases found
      rfl
    · intro session wallet previous found _ _ was
      cases found
      cases was
  exact ⟨_, admitted.runWith, by decide, (mirrors_of_run admitted.runWith).1⟩

/-- Two sessions are authorized as one wallet, and the first of them ends. -/
theorem shared_wallet_lost : ∃ listener,
    (system sampleSerde).Run start (authorizing 0 ++ authorizing 1 ++ [.ended 0]) listener ∧
    listener.LiveAs 1 "w" ∧ ¬ Mirrors listener := by
  have admitted : (system sampleSerde).Admits (fun _ _ => True) start
      (authorizing 0 ++ authorizing 1 ++ [.ended 0]) :=
    ⟨⟨rfl, trivial⟩, ⟨⟨rfl, _, rfl, rfl, rfl, by decide⟩, trivial⟩,
      ⟨⟨rfl, _, rfl, rfl, by decide⟩, trivial⟩, ⟨rfl, trivial⟩,
      ⟨⟨rfl, _, rfl, rfl, rfl, by decide⟩, trivial⟩, ⟨⟨rfl, _, rfl, rfl, by decide⟩, trivial⟩,
      ⟨⟨_, rfl, rfl⟩, trivial⟩, trivial⟩
  have live : ((system sampleSerde).execute start (authorizing 0 ++ authorizing 1)).LiveAs 1
      "w" := ⟨_, rfl, rfl, by decide⟩
  have first : ((system sampleSerde).execute start (authorizing 0 ++ authorizing 1)).session? 0 =
      some _ := rfl
  have elsewhere : (1 : Channel) ≠ 0 := by decide
  refine ⟨_, admitted.runWith, ⟨_, rfl, rfl, by decide⟩, ?_⟩
  exact not_mirrors_of_shared first (by decide) elsewhere live

end Listener

end StratumBridge.Proxy
