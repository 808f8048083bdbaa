import ServoLink.Proofs.Firmware
import ServoLink.Proofs.Register.Delivery
import ServoLink.Proofs.Session.Handshake

/-!
# Negotiation — a handshake with the simulated drive

Over a line that loses nothing, what a handshake ends with depends on the options of the simulated
drive, the requested period and the oldest firmware alone.

* `Register.Ready.readRegister`, `Register.Ready.writeRegister` — one access of a known map;
* `Handshake.verdict` — what the handshake ends with;
* `Handshake.perform_verdict` — that it does, and the register map it leaves;
* `Handshake.perform_simulated` — when it succeeds, and what it agrees on.
-/

namespace ServoLink

open Wire Net Register Drive

variable {σ : Type}

/-! ## Accesses of a known map -/

namespace Register

theorem eq_ok_of_outcomeOf {α : Type} {result : EStateM.Result LinkError (Conversation σ) α}
    {value : α} (h : outcomeOf result = .ok value) : result = .ok value (conversationOf result) := by
  cases result with
  | ok found after =>
      obtain rfl : found = value := Except.ok.inj h
      rfl
  | error cause after => cases h

theorem eq_error_of_outcomeOf {α : Type} {result : EStateM.Result LinkError (Conversation σ) α}
    {cause : LinkError} (h : outcomeOf result = .error cause) :
    result = .error cause (conversationOf result) := by
  cases result with
  | ok found after => cases h
  | error found after =>
      obtain rfl : found = cause := Except.error.inj h
      rfl

section Ready

variable {react : FarEnd σ} {port : σ → RegisterPort} {window patience calls : Nat}
variable {map : RegisterMap} {c : Conversation σ}

/-- A register that exists is read, unless no frame holds its value. -/
theorem Ready.readRegister (h : Ready port window patience map calls c)
    (hline : LossFree react port window patience) (hcalls : calls < UInt16.size)
    {address : Address} {value : Value} (hvalue : map.value? address = some value) :
    Ready port window patience map (calls + 1)
        (conversationOf (readRegister react address .never c))
      ∧ outcomeOf (readRegister react address .never c) =
        if 4 + value.wireLength ≤ maxPayload then .ok value
        else .error (.requestTimeout c.channel.attempts) := by
  have hreply : map.read address = .accepted address value := by
    unfold RegisterMap.value? at hvalue
    unfold RegisterMap.read
    cases hget : map.get? address with
    | none =>
        rw [hget] at hvalue
        cases hvalue
    | some cell =>
        rw [hget] at hvalue
        cases hvalue
        rfl
  have hencode := Frame.encode_eq_ok c.channel.checksum
    (f := ⟨c.channel.nextSequence, .registerRead address⟩) (of_decide_eq_true rfl)
  have hopen : (MapAccess.read address).barred = false := rfl
  rcases h.talk hline hcalls hopen hencode with ⟨hready, houtcome⟩
  refine ⟨hready, houtcome.trans ?_⟩
  show (if (Message.registerReply (map.read address)).wireLength ≤ maxPayload then
    Call.outcome { access := .read address } (map.read address) else _) = _
  rw [hreply]
  rfl

/-- A word is written where the map accepts it. -/
theorem Ready.writeRegister (h : Ready port window patience map calls c)
    (hline : LossFree react port window patience) (hcalls : calls < UInt16.size)
    {address : Address} {word : UInt32}
    (hopen : (MapAccess.write address (.uint32 word)).barred = false)
    (haccepted : map.objection? address (.uint32 word) = none) :
    Ready port window patience (map.write address (.uint32 word)).2 (calls + 1)
        (conversationOf (writeRegister react address (.uint32 word) .never c))
      ∧ outcomeOf (writeRegister react address (.uint32 word) .never c) = .ok () := by
  have hreply : (map.write address (.uint32 word)).1 = .accepted address (.uint32 word) := by
    rw [RegisterMap.write, haccepted]
  have hencode := Frame.encode_eq_ok c.channel.checksum
    (f := ⟨c.channel.nextSequence, .registerWrite ⟨address, .uint32 word⟩⟩)
    (of_decide_eq_true rfl)
  rcases h.talk hline hcalls hopen hencode with ⟨hready, houtcome⟩
  have hok : Call.outcome { access := .write address (.uint32 word) }
      (map.write address (.uint32 word)).1 = .ok (.uint32 word) := by
    rw [hreply]
    rfl
  have hfits : (Message.registerReply (map.write address (.uint32 word)).1).wireLength ≤
      maxPayload := by
    rw [hreply]
    exact of_decide_eq_true rfl
  have htalk : outcomeOf (Call.talk react { access := .write address (.uint32 word) } c) =
      .ok (.uint32 word) := (houtcome.trans (if_pos hfits)).trans hok
  unfold Call.talk at htalk hready
  dsimp only at htalk hready
  cases hresult : Register.writeRegister react address (.uint32 word) .never c with
  | ok _ after =>
      rw [hresult] at hready
      exact ⟨hready, rfl⟩
  | error cause after =>
      rw [hresult] at htalk
      cases htalk

end Ready

end Register

namespace Handshake

/-! ## Steps -/

section Steps

variable {react : FarEnd σ} {port : σ → RegisterPort} {window patience calls : Nat}
variable {map : RegisterMap} {c : Conversation σ}

theorem readWord_known (h : Ready port window patience map calls c)
    (hline : LossFree react port window patience) (hcalls : calls < UInt16.size)
    {address : Address} {word : UInt32} (hvalue : map.value? address = some (.uint32 word)) :
    ∃ after, readWord react address c = .ok word after
      ∧ Ready port window patience map (calls + 1) after
      ∧ after.channel.attempts = c.channel.attempts := by
  rcases h.readRegister hline hcalls hvalue with ⟨hready, houtcome⟩
  have hfits : 4 + (Value.uint32 word).wireLength ≤ maxPayload := of_decide_eq_true rfl
  rw [if_pos hfits] at houtcome
  refine ⟨_, ?_, hready, Call.attempts_talk react { access := .read address } c⟩
  unfold readWord
  rw [bind_of_ok (eq_ok_of_outcomeOf houtcome)]
  rw [Value.toUInt32?_uint32]
  rfl

/-- An identity is read if it is not too long for a frame. -/
theorem readIdentity_known (h : Ready port window patience map calls c)
    (hline : LossFree react port window patience) (hcalls : calls < UInt16.size)
    {text : String} (hvalue : map.value? .deviceId = some (.string text)) :
    ∃ after, Ready port window patience map (calls + 1) after
      ∧ readIdentity react c =
        if text.utf8ByteSize ≤ 250 then .ok text after
        else .error (.requestTimeout c.channel.attempts) after := by
  rcases h.readRegister hline hcalls hvalue with ⟨hready, houtcome⟩
  refine ⟨_, hready, ?_⟩
  have hfits : 4 + (Value.string text).wireLength ≤ maxPayload ↔ text.utf8ByteSize ≤ 250 := by
    have hlimit : maxPayload = 256 := rfl
    rw [Value.wireLength, hlimit]
    omega
  simp only [hfits] at houtcome
  unfold readIdentity
  split
  · rename_i hshort
    rw [if_pos hshort] at houtcome
    rw [bind_of_ok (eq_ok_of_outcomeOf houtcome)]
    rfl
  · rename_i hlong
    rw [if_neg hlong] at houtcome
    rw [bind_of_error (eq_error_of_outcomeOf houtcome)]

end Steps

/-! ## The whole -/

/-- What a handshake with a simulated drive ends with. -/
def verdict (options : Options) (requested : UInt32) (oldest : Firmware) (attempts : Nat) :
    Except LinkError Outcome :=
  if options.firmware.isBelow oldest then
    .error (.incompatibleFirmware options.firmware oldest)
  -- No frame holds the answer, so the request for it times out.
  else if 250 < options.deviceId.utf8ByteSize then .error (.requestTimeout attempts)
  else if options.cycleTimeMinUs = 0 ∨ options.cycleTimeMaxUs < options.cycleTimeMinUs then
    .error (.handshake (.cycleWindow options.cycleTimeMinUs options.cycleTimeMaxUs))
  else
    .ok ⟨options.firmware, options.deviceId,
      clampPeriod options.cycleTimeMinUs options.cycleTimeMaxUs requested⟩

/-- The registers that the drive has from the start, but for the period. -/
def running (options : Options) (period : UInt32) : RegisterMap :=
  { RegisterMap.new options with
    cells := RegisterMap.put .cycleTime ⟨.uint32 period, .readWrite⟩ (RegisterMap.new options).cells }

theorem get?_running (options : Options) (period : UInt32) :
    (running options period).get? .cycleTime = some ⟨.uint32 period, .readWrite⟩ :=
  RegisterMap.lookup_put _ _ _

/-- Every other register is as it was. -/
theorem get?_running_of_ne (options : Options) (period : UInt32) {address : Address}
    (h : address ≠ .cycleTime) :
    (running options period).get? address = (RegisterMap.new options).get? address :=
  RegisterMap.lookup_put_of_ne h _ _

/-- The registers after a handshake that ended so. -/
def settled (options : Options) : Except LinkError Outcome → RegisterMap
  | .ok outcome => running options outcome.cycleTimeUs
  | .error _ => .new options

/-- A period in the window is accepted. -/
theorem objection?_new {options : Options} {period : UInt32}
    (hlow : options.cycleTimeMinUs ≤ period) (hhigh : period ≤ options.cycleTimeMaxUs) :
    (RegisterMap.new options).objection? .cycleTime (.uint32 period) = none := by
  have hwindow : (RegisterMap.new options).inWindow (.uint32 period) = true := by
    simp [RegisterMap.inWindow, RegisterMap.new, hlow, hhigh]
  have hget : (RegisterMap.new options).get? .cycleTime =
      some ⟨.uint32 options.cycleTimeUs, .readWrite⟩ := rfl
  unfold RegisterMap.objection?
  rw [hget, hwindow]
  rfl

/-- A period in the window is written, and read back. -/
theorem written_and_confirmed {react : FarEnd σ} {port : σ → RegisterPort}
    {window patience calls : Nat} {options : Options} {c : Conversation σ} {period : UInt32}
    (h : Ready port window patience (.new options) calls c)
    (hline : LossFree react port window patience) (hcalls : calls + 1 < UInt16.size)
    (hlow : options.cycleTimeMinUs ≤ period) (hhigh : period ≤ options.cycleTimeMaxUs) :
    ∃ written after,
      writeRegister react .cycleTime (.uint32 period) .never c = .ok () written
      ∧ readWord react .cycleTime written = .ok period after
      ∧ (port after.line.far).map = running options period := by
  have haccepted := objection?_new hlow hhigh
  have hwrite : (RegisterMap.new options).write .cycleTime (.uint32 period) =
      (.accepted .cycleTime (.uint32 period), running options period) := by
    rw [RegisterMap.write, haccepted]
    rfl
  have hvalue : (running options period).value? .cycleTime = some (.uint32 period) := by
    rw [RegisterMap.value?, get?_running]
    rfl
  rcases h.writeRegister hline (Nat.lt_of_succ_lt hcalls) rfl haccepted with ⟨hready, hwritten⟩
  rw [hwrite] at hready
  rcases readWord_known hready hline hcalls hvalue with ⟨after, hread, hafter, -⟩
  exact ⟨_, after, eq_ok_of_outcomeOf hwritten, hread, hafter.held⟩

/-- A handshake ends with its verdict, also after earlier calls. -/
theorem perform_verdict {react : FarEnd σ} {port : σ → RegisterPort}
    {window patience calls : Nat} {options : Options} {c : Conversation σ}
    (hline : LossFree react port window patience)
    (h : Ready port window patience (.new options) calls c) (hcalls : calls + 5 < UInt16.size)
    (requested : UInt32) (oldest : Firmware) :
    outcomeOf (perform react requested oldest c) =
        verdict options requested oldest c.channel.attempts
      ∧ (port (conversationOf (perform react requested oldest c)).line.far).map =
        settled options (verdict options requested oldest c.channel.attempts) := by
  have hversion : (RegisterMap.new options).value? .firmwareVersion =
    some (.uint32 options.firmware.packed) := rfl
  have hname : (RegisterMap.new options).value? .deviceId = some (.string options.deviceId) := rfl
  have hlow : (RegisterMap.new options).value? .cycleTimeMin =
    some (.uint32 options.cycleTimeMinUs) := rfl
  have hhigh : (RegisterMap.new options).value? .cycleTimeMax =
    some (.uint32 options.cycleTimeMaxUs) := rfl
  unfold perform verdict
  rcases readWord_known h hline (by omega) hversion with ⟨c₁, hfirmware, h₁, hattempts⟩
  rw [bind_of_ok hfirmware, Firmware.ofPacked_packed, ← hattempts]
  by_cases hold : options.firmware.isBelow oldest = true
  · rw [if_pos hold, if_pos hold]
    exact ⟨rfl, h₁.held⟩
  rw [if_neg hold, if_neg hold]
  dsimp only
  rcases readIdentity_known h₁ hline (by omega) hname with ⟨c₂, h₂, hidentity⟩
  by_cases hlong : 250 < options.deviceId.utf8ByteSize
  · rw [if_neg (Nat.not_le.2 hlong)] at hidentity
    rw [bind_of_error hidentity, if_pos hlong]
    exact ⟨rfl, h₂.held⟩
  rw [if_pos (Nat.not_lt.1 hlong)] at hidentity
  rw [bind_of_ok hidentity, if_neg hlong]
  rcases readWord_known h₂ hline (by omega) hlow with ⟨c₃, hmin, h₃, -⟩
  rw [bind_of_ok hmin]
  rcases readWord_known h₃ hline (by omega) hhigh with ⟨c₄, hmax, h₄, -⟩
  rw [bind_of_ok hmax]
  have hwindow : (options.cycleTimeMinUs == 0
      || decide (options.cycleTimeMaxUs < options.cycleTimeMinUs)) = true
        ↔ options.cycleTimeMinUs = 0 ∨ options.cycleTimeMaxUs < options.cycleTimeMinUs := by
    simp
  simp only [hwindow]
  by_cases hbad : options.cycleTimeMinUs = 0 ∨ options.cycleTimeMaxUs < options.cycleTimeMinUs
  · rw [if_pos hbad, if_pos hbad]
    exact ⟨rfl, h₄.held⟩
  rw [if_neg hbad, if_neg hbad]
  have hpositive : 0 < options.cycleTimeMinUs :=
    UInt32.pos_iff_ne_zero.2 fun hzero => hbad (Or.inl hzero)
  have hordered : options.cycleTimeMinUs ≤ options.cycleTimeMaxUs :=
    UInt32.not_lt.1 fun hempty => hbad (Or.inr hempty)
  generalize hperiod : clampPeriod options.cycleTimeMinUs options.cycleTimeMaxUs requested = period
  have hinside := clampPeriod_inside hordered requested
  rw [hperiod] at hinside
  have hnonzero : (period == 0) = false := by
    have := UInt32.pos_iff_ne_zero.1 (UInt32.lt_of_lt_of_le hpositive hinside.1)
    simpa using this
  rcases written_and_confirmed h₄ hline (by omega) hinside.1 hinside.2 with
    ⟨written, after, hwritten, hread, hheld⟩
  rw [bind_of_ok hwritten, bind_of_ok hread, hnonzero, if_neg Bool.false_ne_true]
  exact ⟨rfl, hheld⟩

/-- The drive can be run by a program that needs a firmware so new. -/
structure Acceptable (options : Options) (oldest : Firmware) : Prop where
  firmware : options.firmware.isBelow oldest = false
  identity : options.deviceId.utf8ByteSize ≤ 250
  positive : 1 ≤ options.cycleTimeMinUs
  ordered : options.cycleTimeMinUs ≤ options.cycleTimeMaxUs

/-- What a handshake has agreed on with a simulated drive, and the registers after it. -/
structure Agreement (options : Options) (requested : UInt32) (outcome : Outcome)
    (map : RegisterMap) : Prop where
  firmware : outcome.firmware = options.firmware
  deviceId : outcome.deviceId = options.deviceId
  cycleTime : outcome.cycleTimeUs.toNat =
    Nat.max options.cycleTimeMinUs.toNat (Nat.min options.cycleTimeMaxUs.toNat requested.toNat)
  written : map.get? .cycleTime = some ⟨.uint32 outcome.cycleTimeUs, .readWrite⟩
  kept : ∀ address, address ≠ .cycleTime →
    map.get? address = (RegisterMap.new options).get? address

theorem verdict_of_acceptable {options : Options} {oldest : Firmware}
    (h : Acceptable options oldest) (requested : UInt32) (attempts : Nat) :
    verdict options requested oldest attempts = .ok ⟨options.firmware, options.deviceId,
      clampPeriod options.cycleTimeMinUs options.cycleTimeMaxUs requested⟩ := by
  have hwindow : ¬(options.cycleTimeMinUs = 0 ∨ options.cycleTimeMaxUs < options.cycleTimeMinUs) := by
    rintro (hzero | hempty)
    · have hpositive := hzero ▸ h.positive
      exact absurd hpositive (by decide)
    · exact UInt32.not_lt.2 h.ordered hempty
  unfold verdict
  rw [h.firmware, if_neg Bool.false_ne_true, if_neg (Nat.not_lt.2 h.identity), if_neg hwindow]

theorem acceptable_of_verdict {options : Options} {requested : UInt32} {oldest : Firmware}
    {attempts : Nat} {outcome : Outcome}
    (h : verdict options requested oldest attempts = .ok outcome) : Acceptable options oldest := by
  unfold verdict at h
  split at h
  · cases h
  · rename_i hfirmware
    split at h
    · cases h
    · rename_i hidentity
      split at h
      · cases h
      · rename_i hwindow
        rcases not_or.1 hwindow with ⟨hzero, hempty⟩
        have hpositive := UInt32.lt_iff_toNat_lt.1 (UInt32.pos_iff_ne_zero.2 hzero)
        exact ⟨eq_false_of_ne_true hfirmware, Nat.not_lt.1 hidentity,
          UInt32.le_iff_toNat_le.2 hpositive, UInt32.not_lt.1 hempty⟩

/-- Over a line that loses nothing, a handshake with a simulated drive succeeds if and only if the
drive is acceptable.  Then they have agreed; otherwise the handshake has changed no register. -/
theorem perform_simulated {react : FarEnd σ} {port : σ → RegisterPort}
    {window patience calls : Nat} {options : Options} {c : Conversation σ}
    (hline : LossFree react port window patience)
    (h : Ready port window patience (.new options) calls c) (hcalls : calls + 5 < UInt16.size)
    (requested : UInt32) (oldest : Firmware) :
    let result := perform react requested oldest c
    let map := (port (conversationOf result).line.far).map
    ((∃ outcome, outcomeOf result = .ok outcome) ↔ Acceptable options oldest)
      ∧ (∀ outcome, outcomeOf result = .ok outcome → Agreement options requested outcome map)
      ∧ ∀ cause, outcomeOf result = .error cause → map = .new options := by
  intro result map
  obtain ⟨houtcome, hmap⟩ : outcomeOf result = verdict options requested oldest c.channel.attempts
      ∧ map = settled options (verdict options requested oldest c.channel.attempts) :=
    perform_verdict hline h hcalls requested oldest
  rw [houtcome]
  refine ⟨⟨?_, fun hacceptable => ⟨_, verdict_of_acceptable hacceptable requested _⟩⟩, ?_, ?_⟩
  · rintro ⟨outcome, hok⟩
    exact acceptable_of_verdict hok
  · intro outcome hok
    have hacceptable := acceptable_of_verdict hok
    rw [hok] at hmap
    rw [verdict_of_acceptable hacceptable] at hok
    cases hok
    rw [hmap]
    exact ⟨rfl, rfl, toNat_clampPeriod hacceptable.ordered requested, get?_running _ _,
      fun address => get?_running_of_ne _ _⟩
  · intro cause herror
    rw [hmap, herror]
    rfl

/-- A new channel with the default settings, to a drive with the default options. -/
def opening : Conversation RegisterPort :=
  ⟨{ checksum := false, attempts := 3, roundTrip := ⟨20000000, 2000000, 1000000000⟩ },
    { far := .new {} }, false⟩

/-- A period below the default window is raised to its lower bound. -/
theorem perform_simulated_raised :
    ∃ outcome, outcomeOf (perform direct 100 ⟨6, 0, 0⟩ opening) = .ok outcome
      ∧ outcome.cycleTimeUs.toNat = 250 := by
  have hnew : Channel.new? {} = some opening.channel := by decide +kernel
  have hwindow : 1 ≤ opening.channel.roundTrip.min := by decide
  have hpatience : 1 ≤ opening.channel.roundTrip.shortest opening.channel.attempts := by decide
  have hready : Ready id 1 1 (.new {}) 0 opening :=
    Ready.of_new? hnew rfl rfl rfl hwindow hpatience
  have hacceptable : Acceptable {} ⟨6, 0, 0⟩ :=
    ⟨by decide, by decide, by decide, by decide⟩
  rcases perform_simulated (lossFree_direct Nat.one_pos Nat.one_pos) hready (by decide) 100
    ⟨6, 0, 0⟩ with ⟨hsucceeds, hagreement, -⟩
  rcases hsucceeds.2 hacceptable with ⟨outcome, houtcome⟩
  exact ⟨outcome, houtcome, (hagreement outcome houtcome).cycleTime⟩

end Handshake
end ServoLink
