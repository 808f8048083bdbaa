import ServoLink.Handshake
import ServoLink.Proofs.Register.Transcript

/-!
# Handshake — what it asks of a drive, and when it writes

Whatever the drive answers, a handshake asks in one order: firmware, identity, the bounds of the
window, and only if all of them are in order a write of the period, and a read to confirm it.  It
stops at the first answer that is not in order.

* `Conduct` — the transcripts of a handshake;
* `Agreed` — the transcripts of one that succeeds;
* `perform_conducted` — every handshake has such a transcript;
* `perform_safe` — what follows for what it asks and what it sends.
-/

namespace ServoLink

open Wire Net Register Drive

variable {σ : Type}

namespace Handshake

/-! ## Transcripts -/

/-- What a drive has told before its period is written. -/
structure Terms where
  firmware : Firmware
  deviceId : String
  min : UInt32
  max : UInt32

/-- The drive has told its terms, and they are in order. -/
structure Cleared (oldest : Firmware) (terms : Terms) (entries : List Entry) : Prop where
  told : ∃ version low high : Value,
    version.toUInt32?.map Firmware.ofPacked = some terms.firmware
      ∧ low.toUInt32? = some terms.min ∧ high.toUInt32? = some terms.max
      ∧ entries =
        [⟨.read .firmwareVersion, .ok version⟩, ⟨.read .deviceId, .ok (.string terms.deviceId)⟩,
         ⟨.read .cycleTimeMin, .ok low⟩, ⟨.read .cycleTimeMax, .ok high⟩]
  firmware : terms.firmware.isBelow oldest = false
  positive : 0 < terms.min
  ordered : terms.min ≤ terms.max

/-- The period lies in the window, and is the requested one if that lies in the window. -/
structure Chosen (requested : UInt32) (terms : Terms) (period : UInt32) : Prop where
  window : terms.min ≤ period ∧ period ≤ terms.max
  requested : terms.min ≤ requested → requested ≤ terms.max → period = requested

/-- The accesses made before the period is written. -/
def questions : List MapAccess :=
  [.read .firmwareVersion, .read .deviceId, .read .cycleTimeMin, .read .cycleTimeMax]

/-- The transcripts of a handshake, complete or broken off. -/
inductive Conduct (requested : UInt32) (oldest : Firmware) : List Entry → Prop where
  /-- It has asked some of the questions. -/
  | asking {entries : List Entry} (h : entries.map (·.access) <+: questions) :
      Conduct requested oldest entries
  /-- All of them were answered well; it has written, and may have read the period back. -/
  | writing {terms : Terms} {period : UInt32} {entries rest : List Entry}
      {outcome : Except LinkError Value} (hcleared : Cleared oldest terms entries)
      (hchosen : Chosen requested terms period)
      (hrest : rest = [] ∨ ∃ outcome, rest = [⟨.read .cycleTime, outcome⟩]) :
      Conduct requested oldest (entries ++ ⟨.write .cycleTime (.uint32 period), outcome⟩ :: rest)

/-- The transcript of a handshake that succeeds: the write was acknowledged, and the period of the
outcome was read after it. -/
structure Agreed (requested : UInt32) (oldest : Firmware) (outcome : Outcome)
    (entries : List Entry) : Prop where
  firmware : outcome.firmware.isBelow oldest = false
  cycleTime : outcome.cycleTimeUs ≠ 0
  confirmed : ∃ terms period readings, ∃ last : Value,
    Cleared oldest terms readings ∧ Chosen requested terms period
      ∧ outcome.firmware = terms.firmware ∧ outcome.deviceId = terms.deviceId
      ∧ last.toUInt32? = some outcome.cycleTimeUs
      ∧ entries = readings ++ [⟨.write .cycleTime (.uint32 period), .ok (.uint32 period)⟩,
        ⟨.read .cycleTime, .ok last⟩]

/-- The clamped period, as a number. -/
theorem toNat_clampPeriod {min max : UInt32} (h : min ≤ max) (requested : UInt32) :
    (clampPeriod min max requested).toNat =
      Nat.max min.toNat (Nat.min max.toNat requested.toNat) := by
  have hordered := UInt32.le_iff_toNat_le.1 h
  unfold clampPeriod
  split
  · rename_i hlow
    have hlow := UInt32.lt_iff_toNat_lt.1 hlow
    exact (Nat.max_eq_left (Nat.le_trans (Nat.min_le_right _ _) (Nat.le_of_lt hlow))).symm
  · rename_i hlow
    have hlow := UInt32.le_iff_toNat_le.1 (UInt32.not_lt.1 hlow)
    split
    · rename_i hhigh
      have hhigh := UInt32.lt_iff_toNat_lt.1 hhigh
      exact ((congrArg _ (Nat.min_eq_left (Nat.le_of_lt hhigh))).trans (Nat.max_eq_right hordered)).symm
    · rename_i hhigh
      have hhigh := UInt32.le_iff_toNat_le.1 (UInt32.not_lt.1 hhigh)
      exact ((congrArg _ (Nat.min_eq_right hhigh)).trans (Nat.max_eq_right hlow)).symm

/-- The clamped period lies in the window. -/
theorem clampPeriod_inside {min max : UInt32} (h : min ≤ max) (requested : UInt32) :
    min ≤ clampPeriod min max requested ∧ clampPeriod min max requested ≤ max := by
  rw [UInt32.le_iff_toNat_le, UInt32.le_iff_toNat_le, toNat_clampPeriod h]
  exact ⟨Nat.le_max_left _ _, Nat.max_le.2 ⟨UInt32.le_iff_toNat_le.1 h, Nat.min_le_left _ _⟩⟩

theorem chosen_clampPeriod {terms : Terms} (h : terms.min ≤ terms.max) (requested : UInt32) :
    Chosen requested terms (clampPeriod terms.min terms.max requested) := by
  refine ⟨clampPeriod_inside h requested, ?_⟩
  intro hlow hhigh
  rw [clampPeriod, if_neg (UInt32.not_lt.2 hlow), if_neg (UInt32.not_lt.2 hhigh)]

/-! ## Steps -/

section Steps

variable {react : FarEnd σ} {c after : Conversation σ} {entries : List Entry}

/-- An action that succeeds hands on to the next. -/
theorem bind_of_ok {α β : Type} {action : Talk σ α} {next : α → Talk σ β} {a : α}
    (h : action c = .ok a after) : (action >>= next) c = next a after := by
  show EStateM.bind action next c = _
  rw [EStateM.bind, h]

/-- An action that fails ends the whole. -/
theorem bind_of_error {α β : Type} {action : Talk σ α} {next : α → Talk σ β} {cause : LinkError}
    (h : action c = .error cause after) : (action >>= next) c = .error cause after := by
  show EStateM.bind action next c = _
  rw [EStateM.bind, h]

/-- Reading a word is one more entry, and succeeds only if the value is such a word. -/
theorem leads_readWord (h : Leads react c entries after) (address : Address) :
    (∃ cause final outcome, readWord react address after = .error cause final
        ∧ Leads react c (entries ++ [⟨.read address, outcome⟩]) final)
      ∨ ∃ word value final, readWord react address after = .ok word final
        ∧ Value.toUInt32? value = some word
        ∧ Leads react c (entries ++ [⟨.read address, .ok value⟩]) final := by
  have hread := h.read address
  unfold readWord
  simp only [bind, EStateM.bind]
  cases hresult : readRegister react address .never after with
  | error cause final =>
      rw [hresult] at hread
      exact Or.inl ⟨cause, final, _, rfl, hread⟩
  | ok value final =>
      rw [hresult] at hread
      dsimp only
      cases hword : value.toUInt32? with
      | none => exact Or.inl ⟨_, final, _, rfl, hread⟩
      | some word => exact Or.inr ⟨word, value, final, rfl, hword, hread⟩

theorem leads_readIdentity (h : Leads react c entries after) :
    (∃ cause final outcome, readIdentity react after = .error cause final
        ∧ Leads react c (entries ++ [⟨.read .deviceId, outcome⟩]) final)
      ∨ ∃ text final, readIdentity react after = .ok text final
        ∧ Leads react c (entries ++ [⟨.read .deviceId, .ok (.string text)⟩]) final := by
  have hread := h.read .deviceId
  unfold readIdentity
  simp only [bind, EStateM.bind]
  cases hresult : readRegister react .deviceId .never after with
  | error cause final =>
      rw [hresult] at hread
      exact Or.inl ⟨cause, final, _, rfl, hread⟩
  | ok value final =>
      rw [hresult] at hread
      dsimp only
      cases value with
      | string text => exact Or.inr ⟨text, final, rfl, hread⟩
      | _ => exact Or.inl ⟨_, final, _, rfl, hread⟩

theorem leads_writePeriod (h : Leads react c entries after) (period : UInt32) :
    (∃ cause final, writeRegister react .cycleTime (.uint32 period) .never after =
          .error cause final
        ∧ Leads react c
          (entries ++ [⟨.write .cycleTime (.uint32 period), .error cause⟩]) final)
      ∨ ∃ final, writeRegister react .cycleTime (.uint32 period) .never after = .ok () final
        ∧ Leads react c
          (entries ++ [⟨.write .cycleTime (.uint32 period), .ok (.uint32 period)⟩]) final := by
  have hopen : (MapAccess.write .cycleTime (.uint32 period)).barred = false := rfl
  have hwrite := h.write hopen
  cases hresult : writeRegister react .cycleTime (.uint32 period) .never after with
  | error cause final =>
      rw [hresult] at hwrite
      exact Or.inl ⟨cause, final, rfl, hwrite⟩
  | ok _ final =>
      rw [hresult] at hwrite
      exact Or.inr ⟨final, rfl, hwrite⟩

end Steps

/-- A handshake with its transcript. -/
structure Conducted (react : FarEnd σ) (requested : UInt32) (oldest : Firmware)
    (c : Conversation σ) (result : EStateM.Result LinkError (Conversation σ) Outcome)
    (entries : List Entry) : Prop where
  leads : Leads react c entries (conversationOf result)
  conduct : Conduct requested oldest entries
  agreed : ∀ outcome after, result = .ok outcome after → Agreed requested oldest outcome entries

/-- A handshake that fails has agreed on nothing. -/
theorem Conducted.failed {react : FarEnd σ} {requested : UInt32} {oldest : Firmware}
    {c after : Conversation σ} {entries : List Entry} {cause : LinkError}
    (hleads : Leads react c entries after) (hconduct : Conduct requested oldest entries) :
    Conducted react requested oldest c (.error cause after) entries :=
  ⟨hleads, hconduct, by rintro outcome final ⟨⟩⟩

/-- The second half of a handshake: the period is written and read back. -/
def confirm (react : FarEnd σ) (requested : UInt32) (terms : Terms) : Talk σ Outcome := do
  writeRegister react .cycleTime (.uint32 (clampPeriod terms.min terms.max requested)) .never
  let cycleTimeUs ← readWord react .cycleTime
  if cycleTimeUs == 0 then refuse .zeroCycleTime
  pure ⟨terms.firmware, terms.deviceId, cycleTimeUs⟩

theorem confirm_conducted {react : FarEnd σ} (requested : UInt32) {oldest : Firmware}
    {c between : Conversation σ} {readings : List Entry} {terms : Terms}
    (hleads : Leads react c readings between) (hcleared : Cleared oldest terms readings) :
    ∃ entries, Conducted react requested oldest c (confirm react requested terms between)
      entries := by
  have hchosen := chosen_clampPeriod hcleared.ordered requested
  unfold confirm
  -- From the write on the transcript is a writing one, acknowledged or not.
  rcases leads_writePeriod hleads (clampPeriod terms.min terms.max requested) with
    ⟨cause, written, hwrite, hleads⟩ | ⟨written, hwrite, hleads⟩
  · rw [bind_of_error hwrite]
    exact ⟨_, .failed hleads (.writing hcleared hchosen (Or.inl rfl))⟩
  rw [bind_of_ok hwrite]
  rcases leads_readWord hleads .cycleTime with
    ⟨cause, final, outcome, hread, hleads⟩ | ⟨word, last, final, hread, hword, hleads⟩
  · rw [bind_of_error hread]
    rw [List.append_assoc] at hleads
    exact ⟨_, .failed hleads (.writing hcleared hchosen (Or.inr ⟨_, rfl⟩))⟩
  rw [bind_of_ok hread]
  rw [List.append_assoc] at hleads
  by_cases hzero : word = 0
  · rw [if_pos (beq_iff_eq.2 hzero)]
    exact ⟨_, .failed hleads (.writing hcleared hchosen (Or.inr ⟨_, rfl⟩))⟩
  · rw [if_neg (beq_iff_eq.not.2 hzero)]
    refine ⟨_, hleads, .writing hcleared hchosen (Or.inr ⟨_, rfl⟩), ?_⟩
    rintro outcome after ⟨⟩
    exact ⟨hcleared.firmware, hzero,
      terms, _, readings, last, hcleared, hchosen, rfl, rfl, hword, rfl⟩

/-- Every handshake, against any drive, has the transcript of a handshake. -/
theorem perform_conducted (react : FarEnd σ) (requested : UInt32) (oldest : Firmware)
    (c : Conversation σ) :
    ∃ entries, Conducted react requested oldest c (perform react requested oldest c) entries := by
  unfold perform
  -- Each question adds an entry; the first answer that is not in order ends the handshake.
  rcases leads_readWord (.refl : Leads react c [] c) .firmwareVersion with
    ⟨cause, c₁, outcome, hfirmware, hleads⟩ | ⟨word, version, c₁, hfirmware, hversion, hleads⟩
  · rw [bind_of_error hfirmware]
    exact ⟨_, .failed hleads (.asking ⟨_, rfl⟩)⟩
  rw [bind_of_ok hfirmware]
  by_cases hold : (Firmware.ofPacked word).isBelow oldest = true
  · rw [if_pos hold]
    exact ⟨_, .failed hleads (.asking ⟨_, rfl⟩)⟩
  rw [if_neg hold]
  dsimp only
  rcases leads_readIdentity hleads with
    ⟨cause, c₂, outcome, hidentity, hleads⟩ | ⟨deviceId, c₂, hidentity, hleads⟩
  · rw [bind_of_error hidentity]
    exact ⟨_, .failed hleads (.asking ⟨_, rfl⟩)⟩
  rw [bind_of_ok hidentity]
  rcases leads_readWord hleads .cycleTimeMin with
    ⟨cause, c₃, outcome, hmin, hleads⟩ | ⟨min, low, c₃, hmin, hlow, hleads⟩
  · rw [bind_of_error hmin]
    exact ⟨_, .failed hleads (.asking ⟨_, rfl⟩)⟩
  rw [bind_of_ok hmin]
  rcases leads_readWord hleads .cycleTimeMax with
    ⟨cause, c₄, outcome, hmax, hleads⟩ | ⟨max, high, c₄, hmax, hhigh, hleads⟩
  · rw [bind_of_error hmax]
    exact ⟨_, .failed hleads (.asking ⟨_, rfl⟩)⟩
  rw [bind_of_ok hmax]
  by_cases hwindow : (min == 0 || decide (max < min)) = true
  · rw [if_pos hwindow]
    exact ⟨_, .failed hleads (.asking ⟨_, rfl⟩)⟩
  rw [if_neg hwindow]
  rw [Bool.or_eq_true, not_or] at hwindow
  -- All questions are answered well, which is what the second half starts from.
  have hcleared : Cleared oldest ⟨Firmware.ofPacked word, deviceId, min, max⟩ _ :=
    { told := ⟨version, low, high, by rw [hversion]; rfl, hlow, hhigh, rfl⟩
      firmware := Bool.eq_false_iff.2 hold
      positive := UInt32.pos_iff_ne_zero.2 (beq_iff_eq.not.1 hwindow.1)
      ordered := UInt32.not_lt.1 (decide_eq_true_iff.not.1 hwindow.2) }
  have hconfirmed := confirm_conducted requested hleads hcleared
  unfold confirm at hconfirmed
  dsimp only at hconfirmed
  exact hconfirmed

/-! ## Safety -/

/-- The entry is a write. -/
def IsWrite (entry : Entry) : Prop := ∃ address value, entry.access = .write address value

section Conduct

variable {requested : UInt32} {oldest : Firmware} {terms : Terms} {entries : List Entry}

theorem Cleared.not_isWrite (h : Cleared oldest terms entries) :
    ∀ entry ∈ entries, ¬ IsWrite entry := by
  rcases h.told with ⟨version, low, high, -, -, -, rfl⟩
  intro entry hentry
  rintro ⟨address, value, hwrite⟩
  simp only [List.mem_cons, List.not_mem_nil, or_false] at hentry
  rcases hentry with rfl | rfl | rfl | rfl <;> cases hwrite

/-- The only entry of a kind splits a transcript in one way. -/
theorem split_unique {p : Entry → Prop} {front back before rest : List Entry}
    {only entry : Entry} (hfront : ∀ e ∈ front, ¬ p e) (hback : ∀ e ∈ back, ¬ p e)
    (hentry : p entry) (h : front ++ only :: back = before ++ entry :: rest) :
    before = front ∧ only = entry ∧ rest = back := by
  induction front generalizing before with
  | nil =>
      cases before with
      | nil =>
          cases h
          exact ⟨rfl, rfl, rfl⟩
      | cons e before =>
          -- The entry would be behind the only one.
          have hmem : entry ∈ back := by
            rw [(List.cons.inj h).2]
            exact List.mem_append_right _ List.mem_cons_self
          exact absurd hentry (hback entry hmem)
  | cons e front ih =>
      cases before with
      | nil =>
          obtain rfl : e = entry := (List.cons.inj h).1
          exact absurd hentry (hfront e List.mem_cons_self)
      | cons e' before =>
          rcases List.cons.inj h with ⟨rfl, htail⟩
          rcases ih (fun later hlater => hfront later (List.mem_cons_of_mem _ hlater)) htail with
            ⟨rfl, hrest⟩
          exact ⟨rfl, hrest⟩

/-- At most six accesses. -/
theorem Conduct.length_le (h : Conduct requested oldest entries) : entries.length ≤ 6 := by
  cases h with
  | asking hasked =>
      have hlength : (entries.map (·.access)).length ≤ questions.length := hasked.length_le
      rw [List.length_map] at hlength
      exact Nat.le_trans hlength (by decide)
  | writing hcleared _ hrest =>
      rcases hcleared.told with ⟨version, low, high, -, -, -, rfl⟩
      rcases hrest with rfl | ⟨outcome, rfl⟩
      · show 5 ≤ 6
        decide
      · exact Nat.le_refl 6

/-- A write is the one of the period, after all questions, and only a read follows it. -/
theorem Conduct.write (h : Conduct requested oldest entries) {before rest : List Entry}
    {entry : Entry} (hsplit : entries = before ++ entry :: rest) {address : Address}
    {value : Value} (hwrite : entry.access = .write address value) :
    address = .cycleTime
      ∧ (∃ terms period, Cleared oldest terms before ∧ Chosen requested terms period
        ∧ value = .uint32 period)
      ∧ ∀ later ∈ rest, later.access = .read .cycleTime := by
  cases h with
  | asking hasked =>
      -- None of the questions is a write.
      have hmem : entry.access ∈ questions := by
        refine hasked.subset (List.mem_map_of_mem ?_)
        rw [hsplit]
        exact List.mem_append_right _ List.mem_cons_self
      rw [hwrite] at hmem
      simp [questions] at hmem
  | @writing terms period readings follow outcome hcleared hchosen hrest =>
      have hfollow : ∀ later ∈ follow, later.access = .read .cycleTime := by
        intro later hlater
        rcases hrest with rfl | ⟨outcome, rfl⟩
        · cases hlater
        · rw [List.mem_singleton.1 hlater]
      have hreads : ∀ later ∈ follow, ¬ IsWrite later := by
        rintro later hlater ⟨other, written, hother⟩
        rw [hfollow later hlater] at hother
        cases hother
      rcases split_unique hcleared.not_isWrite hreads ⟨address, value, hwrite⟩ hsplit with
        ⟨rfl, rfl, rfl⟩
      cases hwrite
      exact ⟨rfl, ⟨terms, period, hcleared, hchosen, rfl⟩, hfollow⟩

end Conduct

/-- What a handshake has asked and sent, and what its outcome says. -/
structure Safe (react : FarEnd σ) (requested : UInt32) (oldest : Firmware) (c : Conversation σ)
    (result : EStateM.Result LinkError (Conversation σ) Outcome) (entries : List Entry) : Prop where
  /-- The transcript is that of the handshake. -/
  leads : Leads react c entries (conversationOf result)
  requests : entries.length ≤ 6
    ∧ (conversationOf result).channel.stats.requests = c.channel.stats.requests + entries.length
  /-- A write is of a period in the window, once the drive has told its terms and they are in order;
  after it, only the period is read. -/
  writes : ∀ before entry rest, entries = before ++ entry :: rest →
    ∀ address value, entry.access = .write address value →
      address = .cycleTime
        ∧ (∃ terms period, Cleared oldest terms before ∧ Chosen requested terms period
          ∧ value = .uint32 period)
        ∧ ∀ later ∈ rest, later.access = .read .cycleTime
  agreed : ∀ outcome after, result = .ok outcome after → Agreed requested oldest outcome entries
  /-- Whatever was sent asks for an access of the transcript; so without a write among them, only
  reads were sent. -/
  sent : ∃ sent, (conversationOf result).line.sent = sent ++ c.line.sent
    ∧ (∀ datagram ∈ sent, ∃ entry ∈ entries, ∃ sequence,
      Frame.decode datagram = .ok ⟨sequence, entry.access.message⟩)
    ∧ ((∀ entry ∈ entries, ¬ IsWrite entry) → ∀ datagram ∈ sent, ∃ sequence address,
      Frame.decode datagram = .ok ⟨sequence, .registerRead address⟩)

/-- Against any drive, for any requested period and any minimum, a handshake is safe. -/
theorem perform_safe (react : FarEnd σ) (requested : UInt32) (oldest : Firmware)
    (c : Conversation σ) :
    ∃ entries, Safe react requested oldest c (perform react requested oldest c) entries := by
  rcases perform_conducted react requested oldest c with ⟨entries, hleads, hconduct, hagreed⟩
  rcases hleads.sent with ⟨sent, hsent, hasked⟩
  refine ⟨entries,
    { leads := hleads
      requests := ⟨hconduct.length_le, hleads.requests⟩
      writes := fun before entry rest hsplit address value hwrite => hconduct.write hsplit hwrite
      agreed := hagreed
      sent := ⟨sent, hsent, hasked, ?_⟩ }⟩
  intro hreads datagram hdatagram
  rcases hasked datagram hdatagram with ⟨entry, hentry, sequence, hdecode⟩
  cases haccess : entry.access with
  | read address =>
      rw [haccess] at hdecode
      exact ⟨sequence, address, hdecode⟩
  | write address value => exact absurd ⟨address, value, haccess⟩ (hreads entry hentry)

end Handshake
end ServoLink
