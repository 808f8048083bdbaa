import ServoLink.Proofs.Session.Connecting
import ServoLink.Proofs.Session.Fault
import ServoLink.Proofs.Session.Handshake

/-!
# Sending — what a session lets out into the world

The world outside a session changes only with the datagrams that the session sends.  So a property
of it that survives every datagram with no other writes than some given ones (`Withstands`) survives
an operation that asks for no other writes.  A register call writes what it is asked to write, a
handshake writes the period, and a cycle writes nothing.

* `Register.withstands_talk`, `Leads.withstands` — register calls;
* `Handshake.withstands_perform` — handshakes;
* `Session.withstands_reset`, `Session.withstands_writeRegister`, … — the operations of a session;
* `Surroundings.recorded` — surroundings that note every datagram, and `Noted.withstands` — what is
  known of the notes.
-/

namespace ServoLink

open Net Wire Register Drive

/-! ## Datagrams -/

/-- A datagram that is received as a write is one of these writes. -/
def WritesOnly (writes : WriteRequest → Prop) (datagram : List UInt8) : Prop :=
  ∀ sequence w, Frame.decode datagram = .ok ⟨sequence, .registerWrite w⟩ → writes w

section WritesOnly

variable {writes : WriteRequest → Prop} {withChecksum : Bool} {sequence : UInt16}
variable {datagram : List UInt8}

theorem writesOnly_of_encode {access : MapAccess}
    (hwrites : ∀ w, access.message = .registerWrite w → writes w)
    (h : Frame.encode withChecksum ⟨sequence, access.message⟩ = .ok datagram) :
    WritesOnly writes datagram := by
  intro received w hdecode
  have hsent := Frame.decode_of_encode access.canonical_message h
  rw [Frame.take_of_encode h, hdecode] at hsent
  exact hwrites w (Frame.mk.inj (Except.ok.inj hsent)).2.symm

theorem writesOnly_of_encode_control {request : ProcessData.ControlRequest}
    (h : Frame.encode withChecksum ⟨sequence, .control request⟩ = .ok datagram) :
    WritesOnly writes datagram := by
  intro received w hdecode
  have htype := Frame.type_of_decode_encode h hdecode
  cases htype

end WritesOnly

/-! ## Far ends -/

/-- The property of the far end survives every datagram that writes no more than these. -/
def Withstands {σ : Type} (I : σ → Prop) (writes : WriteRequest → Prop) (react : FarEnd σ) : Prop :=
  ∀ far datagram, WritesOnly writes datagram → I far → I (react far datagram).2

section Calls

variable {σ : Type} {I : σ → Prop} {writes : WriteRequest → Prop} {react : FarEnd σ}
variable {c after : Conversation σ}

namespace Register

theorem withstands_talk (h : Withstands I writes react) (call : Call)
    (hwrites : ∀ w, call.access.message = .registerWrite w → writes w) (hfar : I c.line.far) :
    I (conversationOf (call.talk react c)).line.far := by
  cases hbarred : call.access.barred with
  | true =>
      rw [Call.talk_of_barred hbarred]
      exact hfar
  | false =>
      cases hencode : Frame.encode c.channel.checksum
          ⟨c.channel.nextSequence, call.access.message⟩ with
      | error cause =>
          rw [Call.talk_of_encode_error hbarred hencode]
          exact hfar
      | ok datagram =>
          -- Every transmission is of the one datagram, and receiving leaves the far end alone.
          have hsend : ∀ line : Line σ, I line.far → I (line.send react datagram).2.far := by
            intro line hline
            rw [Line.far_send]
            exact h _ _ (writesOnly_of_encode hwrites hencode) hline
          have htransacted := transacted_transact (I := fun far _ => I far) hsend
            (fun _ _ _ _ hline => hline) (c.pendingAt call.access.address) call.cancellation 0
            c.channel.attempts (c := c.begin call.access.address call.cancellation) hfar
          rw [(Call.concludes_talk react hbarred hencode).line]
          exact htransacted.kept

theorem withstands_readRegister (h : Withstands I writes react) (address : Address)
    (cancellation : Cancellation) (hfar : I c.line.far) :
    I (conversationOf (readRegister react address cancellation c)).line.far :=
  withstands_talk h { access := .read address, cancellation } (by rintro w ⟨⟩) hfar

theorem withstands_writeRegister (h : Withstands I writes react) {address : Address} {value : Value}
    (hwrites : writes ⟨address, value⟩) (cancellation : Cancellation) (hfar : I c.line.far) :
    I (conversationOf (writeRegister react address value cancellation c)).line.far := by
  have htalk := withstands_talk h { access := .write address value, cancellation }
    (by rintro w ⟨⟩; exact hwrites) hfar
  unfold Call.talk at htalk
  dsimp only at htalk
  cases hwrite : writeRegister react address value cancellation c with
  | ok _ _ =>
      rw [hwrite] at htalk
      exact htalk
  | error _ _ =>
      rw [hwrite] at htalk
      exact htalk

theorem Leads.withstands {entries : List Entry} (hleads : Leads react c entries after)
    (h : Withstands I writes react)
    (hwrites : ∀ entry ∈ entries, ∀ w, entry.access.message = .registerWrite w → writes w)
    (hfar : I c.line.far) : I after.line.far := by
  induction hleads with
  | refl => exact hfar
  | @call entries between _ call _ ih =>
      have hbetween := ih fun entry hentry => hwrites entry (List.mem_append_left _ hentry)
      exact withstands_talk h call (hwrites _ (List.mem_append_right _ List.mem_cons_self)) hbetween

end Register

/-- The only write of a handshake is one of the period. -/
theorem Handshake.withstands_perform (h : Withstands I writes react)
    (hperiod : ∀ period, writes ⟨.cycleTime, .uint32 period⟩) (requested : UInt32)
    (oldest : Firmware) (hfar : I c.line.far) :
    I (conversationOf (Handshake.perform react requested oldest c)).line.far := by
  obtain ⟨entries, hleads, hconduct, -⟩ :=
    Handshake.perform_conducted react requested oldest c
  refine hleads.withstands h ?_ hfar
  intro entry hentry w hmessage
  have haccess := MapAccess.eq_write_of_message hmessage
  obtain ⟨before, rest, hsplit⟩ := List.append_of_mem hentry
  obtain ⟨haddress, ⟨terms, period, -, -, hvalue⟩, -⟩ := hconduct.write hsplit haccess
  obtain rfl : w = ⟨.cycleTime, .uint32 period⟩ := by
    rw [← haddress, ← hvalue]
  exact hperiod period

theorem Cyclic.withstands_exchange {link : Cyclic.Link σ} (h : Withstands I writes react)
    (request : ProcessData.ControlRequest) (timeout : Nat) (hfar : I link.line.far) :
    I (Cyclic.linkOf (Cyclic.exchange react request timeout link)).line.far := by
  obtain ⟨datagram, hencode, hseen⟩ := Cyclic.far_exchange react request timeout link
  rw [hseen]
  exact h _ _ (writesOnly_of_encode_control hencode) hfar

end Calls

/-! ## Sessions -/

namespace Session

variable {ω : Type} {env : Surroundings ω} {I : ω → Prop} {writes : WriteRequest → Prop}
variable {s : Session ω}

section Connecting

variable (henv : ∀ peer, Withstands I writes (env.react peer))
variable (hperiod : ∀ period, writes ⟨.cycleTime, .uint32 period⟩)

include hperiod in
theorem Failing.withstands {react : FarEnd ω} {requested : UInt32} {oldest : Firmware}
    {c after : Conversation ω} {causes : List LinkError}
    (hfailing : Failing react requested oldest c causes after) (h : Withstands I writes react)
    (hfar : I c.line.far) : I after.line.far := by
  induction hfailing with
  | nil => exact hfar
  | cons hfailed hrest ih =>
      have hbetween := Handshake.withstands_perform h hperiod requested oldest hfar
      rw [hfailed] at hbetween
      exact ih hbetween

include hperiod in
theorem withstands_negotiate {react : FarEnd ω} (h : Withstands I writes react)
    (requested : UInt32) (oldest : Firmware) (failures left : Nat) {c : Conversation ω}
    (shared : Cyclic.Shared) (hfar : I c.line.far) :
    I (negotiate react requested oldest failures left c shared).2.1.line.far := by
  obtain ⟨causes, hnegotiated⟩ := negotiated_negotiate react requested oldest failures left c shared
  obtain ⟨between, hfailing, ⟨outcome, -, hok⟩ | ⟨cause, -, -, hlast⟩⟩ := hnegotiated.failing
  · -- The handshake that succeeded came after those that failed.
    have hafter := Handshake.withstands_perform h hperiod requested oldest
      (hfailing.withstands hperiod h hfar)
    rw [hok] at hafter
    exact hafter
  · rw [hlast]
    exact hfailing.withstands hperiod h hfar

theorem world_startCyclic (cycleTimeUs : UInt32) :
    (s.startCyclic env cycleTimeUs).2.world = s.world := by
  rcases startCyclic_cases env cycleTimeUs s with ⟨cause, hfailed⟩ | ⟨thread, -, hstarted⟩
  · rw [hfailed]
  · rw [hstarted]

include henv hperiod in
theorem withstands_tryConnect (hworld : I s.world) : I (s.tryConnect env).2.world := by
  unfold tryConnect
  split
  · exact hworld
  rename_i link hlink
  split
  · exact hworld
  rename_i oldest holdest
  have hnegotiated := withstands_negotiate hperiod (henv link.peer) s.settings.cyclic.cycleTimeUs
    oldest 0 (max s.settings.handshake.attempts.toNat 1 - 1)
    (c := ⟨link.channel, ⟨link.socket, s.world⟩, false⟩) s.shared hworld
  dsimp only
  generalize negotiate (env.react link.peer) s.settings.cyclic.cycleTimeUs oldest 0
    (max s.settings.handshake.attempts.toNat 1 - 1)
    ⟨link.channel, ⟨link.socket, s.world⟩, false⟩ s.shared = ended at hnegotiated ⊢
  obtain ⟨result, c, shared⟩ := ended
  cases result with
  | error cause => exact hnegotiated
  | ok outcome =>
      dsimp only
      -- Starting the cyclic thread sends nothing yet.
      split
      · rename_i cause after hstart
        have hsame := (congrArg (·.2.world) hstart).symm.trans (world_startCyclic _)
        exact hsame ▸ hnegotiated
      · rename_i after hstart
        have hsame := (congrArg (·.2.world) hstart).symm.trans (world_startCyclic _)
        exact hsame ▸ hnegotiated

include henv hperiod in
theorem withstands_connect (hworld : I s.world) : I (s.connect env).2.world := by
  have hafresh : I (s.connectAfresh env).2.world := by
    have htried := withstands_tryConnect henv hperiod (s := s.setConnection .handshaking) hworld
    unfold connectAfresh
    split
    · rename_i htry
      rw [htry] at htried
      exact htried
    · rename_i htry
      rw [htry] at htried
      exact htried
  unfold connect
  split
  · exact hworld
  · exact hworld
  · exact hworld
  · exact hafresh
  · exact hafresh

theorem world_disconnect (s : Session ω) : s.disconnect.world = s.world := by
  unfold disconnect
  split
  · rfl
  · rfl

include henv hperiod in
theorem withstands_reset (hworld : I s.world) : I (s.reset env).2.world :=
  withstands_connect henv hperiod (s := s.disconnect) (s.world_disconnect ▸ hworld)

end Connecting

section Acting

variable (henv : ∀ peer, Withstands I writes (env.react peer))

theorem withstands_sessionTalk {α : Type} {action : FarEnd ω → Talk ω α}
    (haction : ∀ peer (c : Conversation ω), I c.line.far →
      I (conversationOf (action (env.react peer) c)).line.far) (hworld : I s.world) :
    I (s.talk env action).2.world := by
  unfold talk
  split
  · exact hworld
  · rename_i link hchannel
    have hafter := haction link.peer ⟨link.channel, ⟨link.socket, s.world⟩, false⟩ hworld
    dsimp only
    split
    · rename_i value c hok
      rw [hok] at hafter
      exact hafter
    · rename_i cause c herror
      rw [herror] at hafter
      split
      · exact hafter
      · exact hafter

include henv in
theorem withstands_read (address : Address) (cancellation : Cancellation) (hworld : I s.world) :
    I (s.readRegister env address cancellation).2.world :=
  withstands_sessionTalk
    (fun peer _ hfar => withstands_readRegister (henv peer) address cancellation hfar) hworld

include henv in
theorem withstands_write {address : Address} {value : Value} (hwrites : writes ⟨address, value⟩)
    (cancellation : Cancellation) (hworld : I s.world) :
    I (s.writeRegister env address value cancellation).2.world :=
  withstands_sessionTalk
    (fun peer _ hfar => withstands_writeRegister (henv peer) hwrites cancellation hfar) hworld

theorem world_command (command : Motion.OperatorCommand) (s : Session ω) :
    (s.command command).2.world = s.world := by
  unfold Session.command
  split
  · rfl
  · split
    · split
      · rfl
      · rfl
    · rfl

include henv in
/-- A cycle writes no register. -/
theorem withstands_cycle (hworld : I s.world) : I (s.cycle env).world := by
  cases hthread : s.cyclic with
  | none =>
      have hsame : s.cycle env = s := by simp [Session.cycle, hthread]
      rw [hsame]
      exact hworld
  | some thread =>
      cases hfailure : thread.failure with
      | some cause =>
          have hsame : s.cycle env = s := by simp [Session.cycle, hthread, hfailure]
          rw [hsame]
          exact hworld
      | none =>
          obtain ⟨budget, timing, events, now, -, hafter⟩ :=
            (s.cycleOf thread).turn_eq (env.react thread.peer) thread.schedule
          rw [cycle_eq env hthread hfailure]
          dsimp only
          rw [hafter, Cyclic.Cycle.link_body]
          exact Cyclic.withstands_exchange (henv thread.peer) _ _ hworld

include henv in
theorem withstands_cycles (n : Nat) (hworld : I s.world) :
    I (Rehearsal.cycles env n s).world := by
  induction n generalizing s with
  | zero => exact hworld
  | succ n ih => exact ih (withstands_cycle henv hworld)

include henv in
theorem withstands_started {connected : Except LinkError Handshake.Outcome × Session ω}
    (hworld : I connected.2.world) : I (Rehearsal.started env connected).2.world := by
  obtain ⟨result, s⟩ := connected
  cases result with
  | error cause => exact hworld
  | ok outcome =>
      show I (Rehearsal.firstCycle env s).world
      unfold Rehearsal.firstCycle
      split
      · split
        · exact withstands_cycles henv 1 hworld
        · exact hworld
      · exact hworld

end Acting

end Session

/-! ## Records -/

/-- A world, with every datagram that was sent into it, the latest first. -/
structure Recorded (ω : Type) where
  world : ω
  sent : List (List UInt8) := []
  deriving Repr

/-- Surroundings that answer as before, and note every datagram. -/
def Surroundings.recorded {ω : Type} (env : Surroundings ω) : Surroundings (Recorded ω) where
  openSocket peer record := env.openSocket peer record.world
  react peer record datagram :=
    let (reaction, world) := env.react peer record.world datagram
    (reaction, ⟨world, datagram :: record.sent⟩)
  earliness := env.earliness

/-- What was noted since then writes no more than these. -/
def Noted {ω : Type} (writes : WriteRequest → Prop) (since now : Recorded ω) : Prop :=
  ∃ sent, now.sent = sent ++ since.sent ∧ ∀ datagram ∈ sent, WritesOnly writes datagram

section Records

variable {ω : Type} {writes : WriteRequest → Prop} {since : Recorded ω}

theorem Noted.refl : Noted writes since since := ⟨[], rfl, by rintro datagram ⟨⟩⟩

theorem Noted.withstands (env : Surroundings ω) (peer : Endpoint) :
    Withstands (Noted writes since) writes (env.recorded.react peer) := by
  rintro now datagram hwrites ⟨sent, hsent, hnoted⟩
  refine ⟨datagram :: sent, congrArg (datagram :: ·) hsent, ?_⟩
  intro earlier hearlier
  rcases List.mem_cons.1 hearlier with rfl | hearlier
  · exact hwrites
  · exact hnoted earlier hearlier

end Records

end ServoLink
