import ScionEcho.Proofs.Exchange.Network

/-!
# Every datagram is genuine

What is in flight or in the queue is a request that some attempt has sent, or the answer to one.
The network keeps it so by each of its moves, and the run by each of its calls. From the moment an
attempt has sent its request, an answer to it in the queue has arrived since.
-/

namespace ScionEcho.Exchange

open Run

variable {schedule : Schedule} {src dst : Endpoint} {s : RunSettings} {world world' : World}
  {P : Datagram → Prop} {k : Nat} {mark : List Event}

/-- A datagram is the request of one of the first attempts, or the answer to it. -/
structure Genuine (schedule : Schedule) (src dst : Endpoint) (s : RunSettings) (bound : Nat)
    (d : Datagram) : Prop where
  pos : 0 < d.origin
  le : d.origin ≤ bound
  bytes : ∃ request, requestBytes src dst s (schedule.ids d.origin) = .ok request ∧
    match d.heading with
    | .responder => d.bytes = request
    | .client => Responder.answer request = .ok d.bytes

/-- All datagrams have a property, and those in the queue that stem from attempt `k` have arrived
since the events of `mark`. -/
structure Tracks (P : Datagram → Prop) (k : Nat) (mark : List Event) (world : World) : Prop where
  inFlight : ∀ d ∈ world.inFlight, P d
  queue : ∀ d ∈ world.queue, P d ∧ d.heading = .client
  arrived : ∃ later, world.events = mark ++ later ∧
    ∀ d ∈ world.queue, d.origin = k → .arrived d ∈ later

/-- A property passes from a request to its answer. -/
def PassesToAnswers (P : Datagram → Prop) : Prop :=
  ∀ d, P d → d.heading = .responder → ∀ a ∈ answers d, P a

lemma Genuine.mono {bound bound' : Nat} {d : Datagram} (h : Genuine schedule src dst s bound d)
    (hle : bound ≤ bound') : Genuine schedule src dst s bound' d :=
  ⟨h.pos, Nat.le_trans h.le hle, h.bytes⟩

lemma genuine_passesToAnswers (schedule : Schedule) (src dst : Endpoint) (s : RunSettings)
    (bound : Nat) : PassesToAnswers (Genuine schedule src dst s bound) := by
  intro d hd hheading a ha
  obtain ⟨hpos, hle, request, hrequest, hbytes⟩ := hd
  rw [hheading] at hbytes
  unfold answers at ha
  split at ha
  · next reply hreply =>
    obtain rfl := List.mem_singleton.mp ha
    refine ⟨hpos, hle, request, hrequest, ?_⟩
    rwa [← hbytes]
  · cases ha

/-! ### The network -/

@[simp] lemma drawn_move (world : World) (m : Move) : (world.move m).drawn = world.drawn := by
  cases m with
  | lose place => rfl
  | duplicate place => rfl
  | deliver place =>
    unfold World.move
    dsimp only
    split
    · rfl
    · split <;> rfl

@[simp] lemma drawn_pass (schedule : Schedule) (world : World) :
    (world.pass schedule).drawn = world.drawn := by
  unfold World.pass
  dsimp only
  generalize (schedule.turns world.time).moves = moves
  induction moves generalizing world with
  | nil => rfl
  | cons m moves ih =>
    rw [List.foldl_cons, ih, drawn_move]

/-- A datagram in the queue has just arrived, or was there before. -/
lemma Tracks.move (hP : PassesToAnswers P) (h : Tracks P k mark world) (m : Move) :
    Tracks P k mark (world.move m) := by
  obtain ⟨hinFlight, hqueue, later, hevents, harrived⟩ := h
  have hothers (place : Nat) : ∀ d ∈ world.inFlight.eraseIdx place, P d :=
    fun d hd => hinFlight d (List.mem_of_mem_eraseIdx hd)
  cases m with
  | lose place => exact ⟨hothers place, hqueue, later, hevents, harrived⟩
  | duplicate place =>
    refine ⟨?_, hqueue, later, hevents, harrived⟩
    intro d hd
    rcases List.mem_append.mp hd with hd | hd
    · exact hinFlight d (List.mem_of_getElem? (Option.mem_toList.mp hd))
    · exact hinFlight d hd
  | deliver place =>
    unfold World.move
    dsimp only
    split
    · exact ⟨hinFlight, hqueue, later, hevents, harrived⟩
    · next d hd =>
      have hPd : P d := hinFlight d (List.mem_of_getElem? hd)
      split
      · next hheading =>
        refine ⟨?_, hqueue, later, hevents, harrived⟩
        intro a ha
        rcases List.mem_append.mp ha with ha | ha
        · exact hP d hPd hheading a ha
        · exact hothers place a ha
      -- the only move that adds to the queue also leaves the trace that it did
      · next hheading =>
        refine ⟨hothers place, ?_, later ++ [.arrived d], ?_, ?_⟩
        · intro a ha
          rcases List.mem_append.mp ha with ha | ha
          · exact hqueue a ha
          · obtain rfl := List.mem_singleton.mp ha
            exact ⟨hPd, hheading⟩
        · dsimp only
          rw [hevents, List.append_assoc]
        · intro a ha horigin
          rcases List.mem_append.mp ha with ha | ha
          · exact List.mem_append_left _ (harrived a ha horigin)
          · obtain rfl := List.mem_singleton.mp ha
            exact List.mem_append_right _ (List.mem_singleton_self _)

lemma Tracks.pass (hP : PassesToAnswers P) (h : Tracks P k mark world) (schedule : Schedule) :
    Tracks P k mark (world.pass schedule) := by
  have hmoves (moves : List Move) : Tracks P k mark (moves.foldl World.move world) := by
    induction moves generalizing world with
    | nil => exact h
    | cons m moves ih => exact ih (h.move hP m)
  obtain ⟨hinFlight, hqueue, harrived⟩ := hmoves (schedule.turns world.time).moves
  exact ⟨hinFlight, hqueue, harrived⟩

/-! ### The trace grows -/

/-- A world is later than another: more has happened, and no fewer ids were drawn. -/
def Later (world world' : World) : Prop :=
  world.events <+: world'.events ∧ world.drawn ≤ world'.drawn

lemma Later.trans {a b c : World} (h : Later a b) (h' : Later b c) : Later a c :=
  ⟨h.1.trans h'.1, Nat.le_trans h.2 h'.2⟩

lemma events_move (world : World) (m : Move) : world.events <+: (world.move m).events := by
  cases m with
  | lose place => exact List.prefix_rfl
  | duplicate place => exact List.prefix_rfl
  | deliver place =>
    unfold World.move
    dsimp only
    split
    · exact List.prefix_rfl
    · split
      · exact List.prefix_rfl
      · exact List.prefix_append _ _

lemma later_pass (schedule : Schedule) (world : World) : Later world (world.pass schedule) := by
  refine ⟨?_, Nat.le_of_eq (drawn_pass schedule world).symm⟩
  unfold World.pass
  dsimp only
  generalize (schedule.turns world.time).moves = moves
  induction moves generalizing world with
  | nil => exact List.prefix_rfl
  | cons m moves ih => exact (events_move world m).trans (ih _)

/-- A call fails before it does anything, or does what it does after the network has moved. -/
lemma execute_call {α : Type} (schedule : Schedule) (f : World → Except Failure α × World)
    (world : World) : execute (call schedule f) world =
      match (schedule.turns world.time).failure with
      | some cause => (.error cause, world.pass schedule)
      | none => f (world.pass schedule) := rfl

lemma later_of_call {α : Type} {f : World → Except Failure α × World} {r : Except Failure α}
    (h : execute (call schedule f) world = (r, world')) (hf : ∀ world, Later world (f world).2) :
    Later world world' := by
  rw [execute_call] at h
  have hpass := later_pass schedule world
  split at h
  · obtain rfl : world.pass schedule = world' := congrArg Prod.snd h
    exact hpass
  · obtain rfl : (f (world.pass schedule)).2 = world' := congrArg Prod.snd h
    exact hpass.trans (hf _)

lemma surroundings_respects (schedule : Schedule) (src dst : Endpoint) :
    (surroundings schedule src dst).Respects Later where
  refl _ := ⟨List.prefix_rfl, Nat.le_refl _⟩
  trans := Later.trans
  drawId h := later_of_call (f := World.draw schedule) h fun _ => ⟨List.prefix_rfl, Nat.le_succ _⟩
  discardPending h :=
    later_of_call (f := World.discard) h fun _ => ⟨List.prefix_append _ _, Nat.le_refl _⟩
  clock {st reading st'} h := by
    obtain rfl : st.pass schedule = st' := congrArg Prod.snd h
    exact later_pass schedule st
  send {request _ _ _} h :=
    later_of_call (f := World.send request) h fun _ => ⟨List.prefix_append _ _, Nat.le_refl _⟩
  receive h := by
    refine later_of_call (f := World.receive) h fun world => ?_
    unfold World.receive
    split
    · exact ⟨List.prefix_rfl, Nat.le_refl _⟩
    · exact ⟨List.prefix_append _ _, Nat.le_refl _⟩
  cancelled {st stop st'} h := by
    obtain rfl : st.pass schedule = st' := congrArg Prod.snd h
    exact later_pass schedule st
  log _ st := later_pass schedule st

/-! ### The calls -/

lemma eq_of_call_ok {α : Type} {f : World → Except Failure α × World} {a : α}
    (h : execute (call schedule f) world = (.ok a, world')) :
    f (world.pass schedule) = (.ok a, world') := by
  rw [execute_call] at h
  split at h
  · cases congrArg Prod.fst h
  · exact h

lemma eq_of_call {α : Type} {f : World → Except Failure α × World} {r : Except Failure α}
    (hfree : ∀ n, (schedule.turns n).failure = none)
    (h : execute (call schedule f) world = (r, world')) : f (world.pass schedule) = (r, world') := by
  rwa [execute_call, hfree] at h

/-- Between two attempts, every datagram stems from an attempt that was made. -/
def Settled (schedule : Schedule) (src dst : Endpoint) (s : RunSettings) (world : World) : Prop :=
  Tracks (Genuine schedule src dst s world.drawn) (world.drawn + 1) [] world

/-- While nothing stems from an attempt yet, its tracking may begin at any time. -/
lemma Tracks.restart {bound k' : Nat} {mark' : List Event}
    (h : Tracks (Genuine schedule src dst s bound) k mark world) (hlt : bound < k')
    (hmark : mark' <+: world.events) :
    Tracks (Genuine schedule src dst s bound) k' mark' world := by
  obtain ⟨later, hlater⟩ := hmark
  refine ⟨h.inFlight, h.queue, later, hlater.symm, ?_⟩
  intro d hd horigin
  have hle := (h.queue d hd).1.le
  omega

lemma Tracks.settled (h : Tracks (Genuine schedule src dst s world.drawn) k mark world) :
    Settled schedule src dst s world :=
  h.restart (Nat.lt_succ_self _) (List.nil_prefix)

lemma Tracks.discard {dropped : Nat} (h : Tracks P k mark world)
    (hdiscard : World.discard world = (.ok dropped, world')) :
    Tracks P k world'.events world' ∧ world'.drawn = world.drawn ∧
      .discarded world.drawn ∈ world'.events := by
  obtain rfl : _ = world' := congrArg Prod.snd hdiscard
  have hempty : ∀ d ∈ world.discard.2.queue, False := by
    intro d hd
    cases hd
  refine ⟨⟨h.inFlight, fun d hd => (hempty d hd).elim, [], (List.append_nil _).symm,
    fun d hd => (hempty d hd).elim⟩, rfl, ?_⟩
  exact List.mem_append_right _ (List.mem_singleton_self _)

lemma Tracks.send {bound : Nat} {request : Bytes}
    (h : Tracks (Genuine schedule src dst s bound) k mark world) (hdrawn : world.drawn = bound + 1)
    (hrequest : requestBytes src dst s (schedule.ids world.drawn) = .ok request)
    (hsend : World.send request world = (.ok (), world')) :
    Tracks (Genuine schedule src dst s world'.drawn) world'.drawn world'.events world' ∧
      world'.drawn = world.drawn ∧ world'.events = world.events ++ [.sent world.drawn request] := by
  obtain rfl : _ = world' := congrArg Prod.snd hsend
  have hle : bound ≤ world.drawn := by omega
  have hgenuine : ∀ d ∈ world.inFlight, Genuine schedule src dst s world.drawn d :=
    fun d hd => (h.inFlight d hd).mono hle
  refine ⟨⟨?_, ?_, [], by simp, ?_⟩, rfl, rfl⟩
  · intro d hd
    rcases List.mem_cons.mp hd with rfl | hd
    · exact ⟨by dsimp only; omega, Nat.le_refl _, request, hrequest, rfl⟩
    · exact hgenuine d hd
  · intro d hd
    exact ⟨(h.queue d hd).1.mono hle, (h.queue d hd).2⟩
  · intro d hd horigin
    have hd := (h.queue d hd).1.le
    dsimp only [World.send] at horigin
    omega

/-- A request is sent after the queue was emptied, and its tracking begins there. -/
lemma tracks_of_sends {id sentAt : Int} {request : Bytes}
    (hsends : Sends (surroundings schedule src dst) s world id request sentAt world')
    (h : Settled schedule src dst s world) :
    world'.drawn = world.drawn + 1 ∧ id = schedule.ids world'.drawn ∧
      requestBytes src dst s id = .ok request ∧
      ∃ mark, [.discarded world'.drawn, .sent world'.drawn request].Sublist mark ∧
        Tracks (Genuine schedule src dst s world'.drawn) world'.drawn mark world' := by
  have hP := genuine_passesToAnswers schedule src dst s world.drawn
  cases hsends with
  | @mk _ _ _ st₁ st₂ st₃ _ hdraw hrequest hdiscard hclock hsend =>
    have hdrawn := eq_of_call_ok (f := World.draw schedule) hdraw
    obtain ⟨rfl, rfl⟩ : schedule.ids ((world.pass schedule).drawn + 1) = id ∧
        { world.pass schedule with drawn := (world.pass schedule).drawn + 1 } = st₁ := by
      simpa [World.draw] using hdrawn
    have h₁ := h.pass hP schedule
    have h₂ : Tracks (Genuine schedule src dst s world.drawn) (world.drawn + 1) []
        { world.pass schedule with drawn := (world.pass schedule).drawn + 1 } :=
      ⟨h₁.inFlight, h₁.queue, h₁.arrived⟩
    obtain ⟨h₃, hdrawn₃, hemptied⟩ :=
      (h₂.pass hP schedule).discard (eq_of_call_ok (f := World.discard) hdiscard)
    obtain rfl : st₂.pass schedule = st₃ := congrArg Prod.snd hclock
    simp only [drawn_pass] at hdrawn₃ hrequest hemptied
    have hwritten : requestBytes src dst s (schedule.ids (world.drawn + 1)) = .ok request := hrequest
    obtain ⟨h₄, hdrawn₄, hevents₄⟩ :=
      ((h₃.pass hP schedule).pass hP schedule).send
        (by simp [hdrawn₃]) (by simpa [hdrawn₃] using hwritten)
        (eq_of_call_ok (f := World.send request) hsend)
    simp only [drawn_pass, hdrawn₃] at hdrawn₄ hevents₄
    refine ⟨hdrawn₄, by simp [hdrawn₄], by simpa using hwritten, world'.events, ?_, h₄⟩
    have hbefore : [Event.discarded (world.drawn + 1)].Sublist
        ((st₂.pass schedule).pass schedule).events := by
      rw [List.singleton_sublist]
      exact ((later_pass _ _).trans (later_pass _ _)).1.subset hemptied
    rw [hevents₄, hdrawn₄]
    exact hbefore.append (List.Sublist.refl _)

/-- A wait takes a datagram from the queue, which has arrived since its request was sent. -/
lemma tracks_of_receive {timeout : Option Seconds} {reply : Bytes} (hP : PassesToAnswers P)
    (hreceive : execute ((surroundings schedule src dst).receive timeout) world = (.ok reply, world'))
    (h : Tracks P k mark world) :
    world'.drawn = world.drawn ∧ Tracks P k mark world' ∧
      ∃ d, d.bytes = reply ∧ P d ∧ d.heading = .client ∧ (d.origin = k →
        ∃ later, world'.events = mark ++ later ∧
          [.arrived d, .received world.drawn d].Sublist later) := by
  have hreceived := eq_of_call_ok (f := World.receive) hreceive
  obtain ⟨hinFlight, hqueue, later, hevents, harrived⟩ := h.pass hP schedule
  have hdrawn := drawn_pass schedule world
  generalize world.pass schedule = passed at *
  unfold World.receive at hreceived
  split at hreceived
  · cases congrArg Prod.fst hreceived
  · next d queue hd =>
    simp only [Prod.mk.injEq, Except.ok.injEq] at hreceived
    obtain ⟨hbytes, rfl⟩ := hreceived
    rw [hd] at hqueue harrived
    obtain ⟨hPd, hheading⟩ := hqueue d List.mem_cons_self
    have hgrown : passed.events ++ [.received passed.drawn d] =
        mark ++ (later ++ [.received world.drawn d]) := by
      rw [hevents, hdrawn, List.append_assoc]
    refine ⟨hdrawn, ⟨hinFlight, ?_, _, hgrown, ?_⟩, d, hbytes, hPd, hheading, ?_⟩
    · exact fun a ha => hqueue a (List.mem_cons_of_mem d ha)
    · exact fun a ha horigin =>
        List.mem_append_left _ (harrived a (List.mem_cons_of_mem d ha) horigin)
    · intro horigin
      have hbefore : [Event.arrived d].Sublist later := by
        rw [List.singleton_sublist]
        exact harrived d List.mem_cons_self horigin
      exact ⟨_, hgrown, hbefore.append (List.Sublist.refl _)⟩

/-- A wait that yields nothing leaves everything tracked. -/
lemma tracks_of_receive_error {timeout : Option Seconds} {e : Failure} (hP : PassesToAnswers P)
    (hreceive : execute ((surroundings schedule src dst).receive timeout) world =
      (.error e, world')) (h : Tracks P k mark world) :
    world'.drawn = world.drawn ∧ Tracks P k mark world' := by
  have hpass := h.pass hP schedule
  have hdrawn := drawn_pass schedule world
  have hcall : execute (call schedule World.receive) world = (.error e, world') := hreceive
  rw [execute_call] at hcall
  split at hcall
  · obtain rfl : world.pass schedule = world' := congrArg Prod.snd hcall
    exact ⟨hdrawn, hpass⟩
  · unfold World.receive at hcall
    split at hcall
    · obtain rfl : world.pass schedule = world' := congrArg Prod.snd hcall
      exact ⟨hdrawn, hpass⟩
    · cases congrArg Prod.fst hcall

end ScionEcho.Exchange
