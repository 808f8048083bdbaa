import ServoLink.Proofs.Net.Address
import ServoLink.Proofs.Session.Lifecycle

/-!
# Peers — which drive the channels of a session lead to

Connecting opens both channels to the drive that the settings name.  Naming another drive changes the
settings at once, but a session that is connected keeps the channels it has: until they are closed,
they lead to one drive while the settings name another.  An onlooker notes the drive that was named
last while channels were open (`Steered`).

* `Session.connectAfresh_cases` — the channels that connecting opens;
* `Session.Keeps` — what leaves settings and peers alone;
* `Session.Aims` — the invariant of every run;
* `Steered.leads_run` — where the channels lead, and when that is where the settings say.
-/

namespace ServoLink

open Net

variable {ω : Type}

/-! ## Settings -/

namespace DriveSettings

variable {s : DriveSettings}

theorem ip_of_address {ip : Ip} (h : s.address = ip.text) : s.ip = .ok ip := by
  unfold DriveSettings.ip
  rw [h, Ip.parse?_text]

theorem registerEndpoint_of_ip {ip : Ip} (h : s.ip = .ok ip) :
    s.registerEndpoint = .ok ⟨ip, s.registerPort⟩ := by
  unfold registerEndpoint
  rw [h]
  rfl

/-- Both ports are those of one address. -/
theorem cyclicEndpoint_of_register {peer : Endpoint} (h : s.registerEndpoint = .ok peer) :
    s.cyclicEndpoint = .ok ⟨peer.ip, s.cyclicPort⟩ := by
  unfold cyclicEndpoint
  cases hip : s.ip with
  | error cause =>
      unfold registerEndpoint at h
      rw [hip] at h
      cases h
  | ok ip =>
      rw [registerEndpoint_of_ip hip] at h
      cases h
      rfl

end DriveSettings

namespace Session

theorem connectTo_eq (env : Surroundings ω) (peer : Endpoint) (s : Session ω) :
    s.connectTo env peer = (s.pointedAt peer).connect env := rfl

/-- A drive that is named by its address is the one the settings name. -/
theorem registerEndpoint_pointedAt (peer : Endpoint) (s : Session ω) :
    (s.pointedAt peer).settings.drive.registerEndpoint = .ok peer :=
  DriveSettings.registerEndpoint_of_ip (DriveSettings.ip_of_address rfl)

/-! ## Connecting -/

/-- Both channels have been opened, to where the settings say. -/
structure Opened (s after : Session ω) (link : RegisterLink) (thread : CyclicThread) : Prop where
  registers : after.registers = some link
  cyclic : after.cyclic = some thread
  settings : after.settings = s.settings
  registerPeer : s.settings.drive.registerEndpoint = .ok link.peer
  cyclicPeer : s.settings.drive.cyclicEndpoint = .ok thread.peer

section Connecting

variable {env : Surroundings ω} {s after : Session ω}

theorem endpoint_of_openPeer {named : Except SettingsError Endpoint} {world : ω} {peer : Endpoint}
    (h : openPeer env named world = .ok peer) : named = .ok peer := by
  unfold openPeer at h
  split at h
  · cases h
  · split at h
    · cases h
    · cases h
      rfl

theorem endpoint_of_openRegisters {link : RegisterLink} (h : s.openRegisters env = .ok link) :
    s.settings.drive.registerEndpoint = .ok link.peer := by
  unfold openRegisters at h
  -- Neither needs to be opened up: unfolding the bounds on the round trip is costly.
  generalize Register.Channel.new? s.settings.registerChannel = channel at h
  generalize hpeer : openPeer env s.settings.drive.registerEndpoint s.world = opened at h
  cases opened with
  | error cause => cases h
  | ok peer =>
      cases channel with
      | none => cases h
      | some channel =>
          cases h
          exact endpoint_of_openPeer hpeer

theorem startCyclic_ok {cycleTimeUs : UInt32} (h : s.startCyclic env cycleTimeUs = (.ok (), after)) :
    after.settings = s.settings ∧ after.registers = s.registers
      ∧ ∃ thread, after.cyclic = some thread
        ∧ s.settings.drive.cyclicEndpoint = .ok thread.peer := by
  unfold startCyclic at h
  split at h
  · cases h
  · rename_i peer hpeer
    cases h
    exact ⟨rfl, rfl, _, rfl, endpoint_of_openPeer hpeer⟩

theorem opened_tryConnect {outcome : Handshake.Outcome}
    (h : s.tryConnect env = (.ok outcome, after)) : ∃ link thread, s.Opened after link thread := by
  unfold tryConnect at h
  split at h
  · cases h
  · rename_i link hlink
    split at h
    · cases h
    · dsimp only at h
      split at h
      · cases h
      · split at h
        · cases h
        · rename_i hstart
          cases h
          obtain ⟨hsettings, hregisters, thread, hthread, hcyclic⟩ := startCyclic_ok hstart
          have hregister := endpoint_of_openRegisters hlink
          exact ⟨_, thread, hregisters, hthread, hsettings, hregister, hcyclic⟩

theorem connectAfresh_cases (env : Surroundings ω) (s : Session ω) :
    (∃ outcome link thread, (s.connectAfresh env).1 = .ok outcome
        ∧ s.Opened (s.connectAfresh env).2 link thread)
      ∨ ∃ cause, (s.connectAfresh env).1 = .error cause
        ∧ (s.connectAfresh env).2.registers = none := by
  unfold connectAfresh
  split
  · rename_i outcome after htry
    obtain ⟨link, thread, hopened⟩ := opened_tryConnect htry
    exact Or.inl ⟨outcome, link, thread, rfl, hopened.registers, hopened.cyclic,
      hopened.settings, hopened.registerPeer, hopened.cyclicPeer⟩
  · exact Or.inr ⟨_, rfl, rfl⟩

theorem connect_of_disconnected (env : Surroundings ω) (h : s.state = .disconnected) :
    s.connect env = s.connectAfresh env := by
  unfold connect
  rw [h]

/-- A session that is connected already, or faulted, is left alone. -/
theorem Whole.connect_of_busy (h : s.Whole) (hbusy : s.state ≠ .disconnected)
    (env : Surroundings ω) : (s.connect env).2 = s := by
  unfold Session.connect
  split
  · rfl
  · rfl
  · rfl
  · -- A connected session has an outcome.
    rename_i hstate hnone
    have hsome := (h.busy (Or.inl hstate)).1
    rw [hnone] at hsome
    cases hsome
  · rename_i hstate
    exact absurd hstate hbusy

end Connecting

/-! ## What leaves the peers alone -/

/-- The settings and the peers of the channels are as before. -/
structure Keeps (s after : Session ω) : Prop where
  settings : after.settings = s.settings
  registers : after.registers.map RegisterLink.peer = s.registers.map RegisterLink.peer
  cyclic : after.cyclic.map CyclicThread.peer = s.cyclic.map CyclicThread.peer

theorem Keeps.refl (s : Session ω) : s.Keeps s := ⟨rfl, rfl, rfl⟩

section Keeps

variable {s : Session ω}

theorem registers_of_channel {link : RegisterLink} (h : s.channel = .ok link) :
    s.registers = some link := by
  unfold channel at h
  split at h
  · split at h
    · cases h
      assumption
    · cases h
  · cases h
  · cases h
  · cases h

theorem keeps_talk {α : Type} (env : Surroundings ω) (action : FarEnd ω → Register.Talk ω α) :
    s.Keeps (s.talk env action).2 := by
  unfold talk
  split
  · exact .refl s
  · rename_i link hchannel
    have hlink := registers_of_channel hchannel
    dsimp only
    split
    · exact ⟨rfl, by rw [hlink]; rfl, rfl⟩
    · split
      · exact ⟨rfl, by rw [hlink]; rfl, rfl⟩
      · exact ⟨rfl, by rw [hlink]; rfl, rfl⟩

theorem keeps_command (command : Motion.OperatorCommand) : s.Keeps (s.command command).2 := by
  unfold Session.command
  split
  · exact .refl s
  · split
    · rename_i thread hthread
      split
      · exact .refl s
      · exact ⟨rfl, rfl, by rw [hthread]; rfl⟩
    · exact .refl s

theorem keeps_cycle (env : Surroundings ω) : s.Keeps (s.cycle env) := by
  cases hthread : s.cyclic with
  | none =>
      have hsame : s.cycle env = s := by simp [Session.cycle, hthread]
      rw [hsame]
      exact .refl s
  | some thread =>
      cases hfailure : thread.failure with
      | some cause =>
          have hsame : s.cycle env = s := by simp [Session.cycle, hthread, hfailure]
          rw [hsame]
          exact .refl s
      | none =>
          rw [cycle_eq env hthread hfailure]
          exact ⟨rfl, rfl, by rw [hthread]; rfl⟩

theorem keeps_cycleWith (env : Surroundings ω) (commands : List Motion.OperatorCommand) :
    s.Keeps (s.cycleWith env commands) := by
  have hcycle : s.Keeps (s.cycle env) := keeps_cycle env
  unfold cycleWith
  dsimp only
  split
  · refine ⟨hcycle.settings, hcycle.registers, ?_⟩
    rw [← hcycle.cyclic, Option.map_map]
    rfl
  · exact hcycle

theorem keeps_threadFault (env : Surroundings ω) : s.Keeps (s.undergo env .threadFault) := by
  unfold undergo
  dsimp only
  split
  · exact ⟨rfl, rfl, rfl⟩
  · exact .refl s

end Keeps

/-! ## Aims -/

/-- The channels lead to one address.  The settings name the drive behind them, or the one that was
named since they were opened. -/
structure Aims (s : Session ω) (renamed : Option Endpoint) : Prop where
  idle : s.registers = none → renamed = none
  registers : ∀ link, s.registers = some link →
    s.settings.drive.registerEndpoint = .ok (renamed.getD link.peer)
  cyclic : ∀ link thread, s.registers = some link → s.cyclic = some thread →
    thread.peer = ⟨link.peer.ip, s.settings.drive.cyclicPort⟩

section Aims

variable {s after : Session ω} {renamed : Option Endpoint}

/-- A session without a register channel is disconnected. -/
theorem Whole.disconnected_of_closed (h : s.Whole) (hnone : s.registers = none) :
    s.state = .disconnected := by
  refine h.disconnected_of_none ?_
  cases hthread : s.cyclic with
  | none => rfl
  | some thread =>
      have hsome := (h.busy (h.running hthread)).2.1
      rw [hnone] at hsome
      cases hsome

theorem aims_of_none (h : s.registers = none) : s.Aims none where
  idle _ := rfl
  registers link hlink := by
    rw [h] at hlink
    cases hlink
  cyclic link thread hlink := by
    rw [h] at hlink
    cases hlink

theorem Aims.keeps (h : s.Aims renamed) (hkeeps : s.Keeps after) : after.Aims renamed where
  idle hnone := by
    refine h.idle ?_
    have hregisters := hkeeps.registers
    rw [hnone] at hregisters
    simpa using hregisters.symm
  registers link hlink := by
    have hregisters := hkeeps.registers
    rw [hlink] at hregisters
    obtain ⟨before, hbefore, hpeer⟩ := Option.map_eq_some_iff.1 hregisters.symm
    rw [hkeeps.settings, h.registers before hbefore, hpeer]
  cyclic link thread hlink hthread := by
    have hregisters := hkeeps.registers
    have hcyclic := hkeeps.cyclic
    rw [hlink] at hregisters
    rw [hthread] at hcyclic
    obtain ⟨before, hbefore, hpeer⟩ := Option.map_eq_some_iff.1 hregisters.symm
    obtain ⟨running, hrunning, hsame⟩ := Option.map_eq_some_iff.1 hcyclic.symm
    rw [hkeeps.settings, ← hpeer, ← hsame]
    exact h.cyclic before running hbefore hrunning

theorem Opened.aims {link : RegisterLink} {thread : CyclicThread}
    (h : s.Opened after link thread) : after.Aims none where
  idle _ := rfl
  registers other hother := by
    obtain rfl := Option.some.inj (h.registers.symm.trans hother)
    rw [h.settings]
    exact h.registerPeer
  cyclic other running hother hrunning := by
    obtain rfl := Option.some.inj (h.registers.symm.trans hother)
    obtain rfl := Option.some.inj (h.cyclic.symm.trans hrunning)
    -- One address stands behind both endpoints of the settings.
    have hsame := (DriveSettings.cyclicEndpoint_of_register h.registerPeer).symm.trans h.cyclicPeer
    rw [h.settings]
    exact (Except.ok.inj hsame).symm

theorem aims_connectAfresh (env : Surroundings ω) (s : Session ω) :
    (s.connectAfresh env).2.Aims none := by
  rcases connectAfresh_cases env s with ⟨outcome, link, thread, -, hopened⟩ | ⟨cause, -, hnone⟩
  · exact hopened.aims
  · exact aims_of_none hnone

theorem Whole.aims_connect (h : s.Whole) (haims : s.Aims renamed) (env : Surroundings ω) :
    (s.connect env).2.Aims renamed := by
  by_cases hidle : s.state = .disconnected
  · obtain rfl := haims.idle (h.idle hidle).2.1
    rw [connect_of_disconnected env hidle]
    exact aims_connectAfresh env s
  · rw [h.connect_of_busy hidle env]
    exact haims

/-- The settings of a session that is not disconnected name the drive that it is told to connect to,
whatever its channels lead to. -/
theorem Whole.aims_connectTo (h : s.Whole) (haims : s.Aims renamed) (env : Surroundings ω)
    (peer : Endpoint) : (s.connectTo env peer).2.Aims
      (if s.state = .disconnected then none else some peer) := by
  rw [connectTo_eq]
  split
  · rename_i hidle
    have hpointed : (s.pointedAt peer).state = .disconnected := hidle
    rw [connect_of_disconnected env hpointed]
    exact aims_connectAfresh env (s.pointedAt peer)
  · rename_i hbusy
    rw [(h.pointedAt peer).connect_of_busy hbusy env]
    -- The channels are those of before, but the settings are not.
    refine ⟨?_, fun _ _ => registerEndpoint_pointedAt peer s, haims.cyclic⟩
    intro hnone
    exact absurd (h.disconnected_of_closed hnone) hbusy

theorem Whole.aims_disconnect (h : s.Whole) : s.disconnect.Aims none := by
  refine aims_of_none ?_
  unfold Session.disconnect
  split
  · rename_i hidle
    simp only [Bool.and_eq_true, decide_eq_true_eq] at hidle
    exact (h.idle hidle.1).2.1
  · rfl

end Aims

end Session

/-! ## Runs -/

/-- A session, and the drive that was named while channels to a drive were open, if one was since
they were opened. -/
structure Steered (ω : Type) where
  session : Session ω
  renamed : Option Endpoint := none

namespace Steered

def new (settings : Settings) (world : ω) : Steered ω := { session := .new settings world }

/-- The drive to be noted after an occurrence: closing the channels strikes it out. -/
def noted (w : Steered ω) : Session.Occurrence ω → Option Endpoint
  | .operation (.connectTo peer) => if w.session.state = .disconnected then none else some peer
  | .operation .reset | .operation .disconnect => none
  | _ => w.renamed

def step (env : Surroundings ω) (w : Steered ω) (occurrence : Session.Occurrence ω) : Steered ω :=
  { session := w.session.undergo env occurrence
    renamed := w.noted occurrence }

def run (env : Surroundings ω) (w : Steered ω) (occurrences : List (Session.Occurrence ω)) :
    Steered ω :=
  occurrences.foldl (step env) w

/-- The invariant of every run. -/
structure Sound (w : Steered ω) : Prop where
  whole : w.session.Whole
  aims : w.session.Aims w.renamed

theorem sound_new (settings : Settings) (world : ω) : (new settings world).Sound where
  whole := Session.whole_new settings world
  aims := Session.aims_of_none rfl

theorem Sound.step {w : Steered ω} (h : w.Sound) (env : Surroundings ω)
    (occurrence : Session.Occurrence ω) : (w.step env occurrence).Sound where
  whole := (h.whole.undergo env occurrence).whole
  aims := by
    cases occurrence with
    | threadFault => exact h.aims.keeps (Session.keeps_threadFault env)
    | operation operation =>
        cases operation with
        | connect => exact h.whole.aims_connect h.aims env
        | connectTo peer => exact h.whole.aims_connectTo h.aims env peer
        | reset => exact h.whole.disconnect.whole.aims_connect h.whole.aims_disconnect env
        | disconnect => exact h.whole.aims_disconnect
        | command command => exact h.aims.keeps (Session.keeps_command command)
        | read address cancellation => exact h.aims.keeps (Session.keeps_talk env _)
        | write address value cancellation => exact h.aims.keeps (Session.keeps_talk env _)
        | cycle commands => exact h.aims.keeps (Session.keeps_cycleWith env commands)
        | change world => exact h.aims.keeps ⟨rfl, rfl, rfl⟩

theorem Sound.run {w : Steered ω} (h : w.Sound) (env : Surroundings ω)
    (occurrences : List (Session.Occurrence ω)) : (w.run env occurrences).Sound := by
  induction occurrences generalizing w with
  | nil => exact h
  | cons occurrence rest ih => exact ih (h.step env occurrence)

/-- Where the channels of a session lead, at a call boundary. -/
structure Leads (env : Surroundings ω) (w : Steered ω) : Prop where
  /-- Both channels of a connected session lead to one address.  Each leads to where the settings
  say, unless another drive was named since. -/
  connected : w.session.state = .connected → ∃ link thread,
    w.session.registers = some link ∧ w.session.cyclic = some thread
      ∧ thread.peer = ⟨link.peer.ip, w.session.settings.drive.cyclicPort⟩
      ∧ (w.session.settings.drive.registerEndpoint = .ok link.peer ↔
        ∀ peer, w.renamed = some peer → peer = link.peer)
      ∧ (w.session.settings.drive.cyclicEndpoint = .ok thread.peer ↔
        ∀ peer, w.renamed = some peer → peer.ip = link.peer.ip)
  /-- To connect to a drive opens the register channel to it, or leaves the one that is open. -/
  connectTo : ∀ peer outcome, (w.session.connectTo env peer).1 = .ok outcome →
    ∃ link, (w.session.connectTo env peer).2.registers = some link
      ∧ (link.peer = peer ↔ w.session.state = .disconnected
        ∨ ∃ before, w.session.registers = some before ∧ before.peer = peer)

theorem Sound.leads {w : Steered ω} (h : w.Sound) (env : Surroundings ω) : Leads env w where
  connected := by
    intro hconnected
    obtain ⟨-, hregisters, hcyclic⟩ := h.whole.busy (Or.inl hconnected)
    obtain ⟨link, hlink⟩ := Option.isSome_iff_exists.1 hregisters
    obtain ⟨thread, hthread⟩ := Option.isSome_iff_exists.1 hcyclic
    have hregister := h.aims.registers link hlink
    have hport := h.aims.cyclic link thread hlink hthread
    refine ⟨link, thread, hlink, hthread, hport, ?_, ?_⟩
    · rw [hregister]
      cases w.renamed with
      | none => simp
      | some peer => simp
    · rw [DriveSettings.cyclicEndpoint_of_register hregister, hport]
      cases w.renamed with
      | none => simp
      | some peer => simp
  connectTo := by
    intro peer outcome hok
    rw [Session.connectTo_eq] at hok ⊢
    by_cases hidle : w.session.state = .disconnected
    · have hpointed : (w.session.pointedAt peer).state = .disconnected := hidle
      rw [Session.connect_of_disconnected env hpointed] at hok ⊢
      rcases Session.connectAfresh_cases env (w.session.pointedAt peer) with
        ⟨-, link, thread, -, hopened⟩ | ⟨cause, herror, -⟩
      · have hpeer := hopened.registerPeer.symm.trans
          (Session.registerEndpoint_pointedAt peer w.session)
        exact ⟨link, hopened.registers, by simpa [hidle] using Except.ok.inj hpeer⟩
      · rw [herror] at hok
        cases hok
    · -- The channel that is open stays.
      rw [(h.whole.pointedAt peer).connect_of_busy hidle env]
      cases hregisters : w.session.registers with
      | none => exact absurd (h.whole.disconnected_of_closed hregisters) hidle
      | some link => exact ⟨link, hregisters, by simp [hidle]⟩

/-- In any surroundings, whatever happens to a new session, at every call boundary. -/
theorem leads_run (env : Surroundings ω) (settings : Settings) (world : ω)
    (occurrences : List (Session.Occurrence ω)) :
    Leads env ((new settings world).run env occurrences) :=
  ((sound_new settings world).run env occurrences).leads env

/-- Another port of the host that the simulated drive is on. -/
def elsewhere : Endpoint := ⟨Rehearsal.Site.localHost, 9⟩

/-- A session is connected to the simulated drive, and then told to connect to another port. -/
def misled : Except LinkError Handshake.Outcome × Session Rehearsal.Site :=
  let connected :=
    (new { drive := Rehearsal.Site.driveSettings } { drive := some (.new {}) }).run
      Rehearsal.Site.surroundings [.operation .connect]
  connected.session.connectTo Rehearsal.Site.surroundings elsewhere

/-- That succeeds: the settings name the other port, and the register channel leads to the drive as
before. -/
theorem misled_elsewhere :
    (∃ outcome, misled.1 = .ok outcome) ∧ misled.2.state = .connected
      ∧ misled.2.settings.drive.registerEndpoint = .ok elsewhere
      ∧ ∃ link, misled.2.registers = some link ∧ link.peer ≠ elsewhere := by
  have hok : misled.1 = .ok ⟨⟨6, 2, 0⟩, "LinMot C1250-SIM", 2000⟩ := by decide +kernel
  have hstate : misled.2.state = .connected := by decide +kernel
  have hnamed : misled.2.settings.drive.registerEndpoint = .ok elsewhere := by decide +kernel
  have hpeer : misled.2.registers.map RegisterLink.peer = some Rehearsal.Site.registerPeer := by
    decide +kernel
  obtain ⟨link, hlink, hdrive⟩ := Option.map_eq_some_iff.1 hpeer
  refine ⟨⟨_, hok⟩, hstate, hnamed, link, hlink, ?_⟩
  rw [hdrive]
  decide

end Steered
end ServoLink
