import ServoLink.ProcessData.Status
import ServoLink.Proofs.Drive.State
import ServoLink.Proofs.ProcessData.Control

/-!
# Status responses on the wire

A status response is `Canonical` when a reader can give it: the echoed word is known, the state and
the error code are such as a drive can report, and a configuration is carried only where the echoed
request had one.

* `StatusResponse.reads_write` — a canonical response is read back from its bytes;
* `StatusResponse.ensures_read` — an accepted response is canonical, and as long as it says.
-/

namespace ServoLink
namespace ProcessData

open Wire

/-! ## Monitoring channel -/

theorem MonitoringChannel.reads_write (m : MonitoringChannel) :
    Reads MonitoringChannel.read m.write m := by
  refine Reads.require .monitoringChannel ?_ (Nat.le_refl 16)
  simp only [MonitoringChannel.write, List.append_assoc]
  exact (reads_readUInt32As .uint32 m.first).bind ((reads_readUInt32As .uint32 m.second).bind
    ((reads_readUInt32As .uint32 m.third).bind
      ((reads_readUInt32As .uint32 m.fourth).bind_pure fun fourth =>
        MonitoringChannel.mk m.first m.second m.third fourth)))

theorem MonitoringChannel.ensures_read :
    Ensures MonitoringChannel.read fun _ n => True ∧ n = MonitoringChannel.wireLength := by
  refine (Ensures.require .monitoringChannel MonitoringChannel.wireLength).bind
    fun _ n0 h0 => ?_
  refine (ensures_readUInt32As .uint32).bind fun _ n1 h1 => ?_
  refine (ensures_readUInt32As .uint32).bind fun _ n2 h2 => ?_
  refine (ensures_readUInt32As .uint32).bind fun _ n3 h3 => ?_
  refine (ensures_readUInt32As .uint32).bind fun _ n4 h4 => ?_
  refine Ensures.pure ⟨trivial, ?_⟩
  rw [h0, h1, h2, h3, h4]
  rfl

/-! ## Status response -/

namespace StatusResponse

/-- What a reader can give. -/
structure Canonical (s : StatusResponse) : Prop where
  echoed : s.echoed.Known
  state : ∀ state, s.state = some state → state.Reported
  errorCode : ∀ code, s.errorCode = some code → code.Denoted
  configuration : s.configuration.isSome → s.echoesConfiguration

/-- The announced sections, one by one. -/
theorem contains_sections (s : StatusResponse) :
    s.sections.contains ResponseSections.statusWord = s.status.isSome
      ∧ s.sections.contains ResponseSections.state = s.state.isSome
      ∧ s.sections.contains ResponseSections.actualPosition = s.actualPosition.isSome
      ∧ s.sections.contains ResponseSections.demandPosition = s.demandPosition.isSome
      ∧ s.sections.contains ResponseSections.current = s.current.isSome
      ∧ s.sections.contains ResponseSections.warningWord = s.warning.isSome
      ∧ s.sections.contains ResponseSections.errorCode = s.errorCode.isSome
      ∧ s.sections.contains ResponseSections.monitoringChannel = s.monitoring.isSome
      ∧ s.sections.contains ResponseSections.realtimeConfiguration
          = (s.configuration.isSome && s.echoesConfiguration) := by
  refine ⟨?_, ?_, ?_, ?_, ?_, ?_, ?_, ?_, ?_⟩ <;>
    simp +decide (disch := decide) only [sections, Sections.contains_or, Sections.contains_onlyIf,
      Sections.contains_bit]
  all_goals simp

theorem known_sections (s : StatusResponse) : s.sections.Known := by
  unfold sections
  repeat' apply Sections.Known.or
  all_goals exact Sections.Known.onlyIf (by decide) _

/-- The configuration section of a canonical response follows its own presence. -/
theorem Canonical.configurationBytes {s : StatusResponse} (h : s.Canonical) :
    (if s.echoesConfiguration then sectionBytes RealtimeConfiguration.write s.configuration else [])
      = sectionBytes RealtimeConfiguration.write s.configuration := by
  cases hconfiguration : s.configuration with
  | none => simp [sectionBytes]
  | some c =>
      have hechoed := h.configuration (by rw [hconfiguration]; rfl)
      rw [if_pos hechoed]

theorem length_write (s : StatusResponse) : s.write.length = s.wireLength := by
  have hword {k : WordKind} : ∀ w : Word k, w.write.length = 2 := fun _ => rfl
  have hstate : ∀ state : Drive.State, state.write.length = 2 := fun _ => rfl
  have hposition : ∀ p : Position, (bytesOfInt32 p.steps).length = 4 := fun _ => rfl
  have hcurrent : ∀ c : Current, (bytesOfInt16 c.steps).length = 2 := fun _ => rfl
  have hcode : ∀ e : Drive.ErrorCode, (bytesOfUInt16 e.code).length = 2 := fun _ => rfl
  have hmonitoring : ∀ m : MonitoringChannel, m.write.length = MonitoringChannel.wireLength :=
    fun _ => rfl
  have hconfiguration : (if s.echoesConfiguration then
        sectionBytes RealtimeConfiguration.write s.configuration else []).length
      = if s.configuration.isSome && s.echoesConfiguration then
          RealtimeConfiguration.wireLength else 0 := by
    cases s.echoesConfiguration with
    | false => simp
    | true => simpa using length_sectionBytes RealtimeConfiguration.length_write s.configuration
  simp only [write, wireLength, List.length_append, length_sectionBytes hword,
    length_sectionBytes hstate, length_sectionBytes hposition, length_sectionBytes hcurrent,
    length_sectionBytes hcode, length_sectionBytes hmonitoring, hconfiguration]
  rfl

theorem reads_write {s : StatusResponse} (h : s.Canonical) :
    Reads StatusResponse.read s.write s := by
  rcases s.contains_sections with ⟨hst, hse, hap, hdp, hcu, hwa, hec, hmc, hrc⟩
  -- A reader that was not asked for a configuration drops a bit that was never set.
  have hannounced : (if s.echoed.contains RequestSections.realtimeConfiguration then s.sections
      else s.sections.difference ResponseSections.realtimeConfiguration) = s.sections := by
    split
    · rfl
    · rename_i hechoed
      rw [Bool.not_eq_true] at hechoed
      apply Sections.difference_of_not_contains (by decide)
      rw [hrc, echoesConfiguration, hechoed, Bool.and_false]
  have hcarried : (s.configuration.isSome && s.echoesConfiguration) = s.configuration.isSome := by
    cases hsome : s.configuration.isSome with
    | false => rfl
    | true => exact h.configuration hsome
  simp only [write, h.configurationBytes, List.append_assoc]
  refine (Sections.reads_write h.echoed).bind ?_
  refine (Sections.reads_write s.known_sections).bind ?_
  simp only [hannounced, hst, hse, hap, hdp, hcu, hwa, hec, hmc, hrc, hcarried,
    sectionBytes_eq_elim]
  refine (Reads.section? fun w _ => w.reads_write).bind ?_
  refine (Reads.section? fun state hsome => (h.state state hsome).reads_write).bind ?_
  refine (Reads.section? fun p _ => (reads_readInt32 p.steps).map Position.mk).bind ?_
  refine (Reads.section? fun p _ => (reads_readInt32 p.steps).map Position.mk).bind ?_
  refine (Reads.section? fun c _ => (reads_readInt16 c.steps).map Current.mk).bind ?_
  refine (Reads.section? fun w _ => w.reads_write).bind ?_
  refine (Reads.section? fun code hsome => (h.errorCode code hsome).reads_write).bind ?_
  refine (Reads.section? fun m _ => m.reads_write).bind ?_
  exact (Reads.section? fun c _ => c.reads_write).bind_pure fun configuration =>
    StatusResponse.mk s.echoed s.status s.state s.actualPosition s.demandPosition s.current
      s.warning s.errorCode s.monitoring configuration

theorem ensures_read :
    Ensures StatusResponse.read fun s n => s.Canonical ∧ n = s.wireLength := by
  have hposition : Ensures (Position.mk <$> readInt32) fun _ n => True ∧ n = 4 :=
    ensures_readInt32.map fun _ _ h => ⟨trivial, h⟩
  have hcurrent : Ensures (Current.mk <$> readInt16) fun _ n => True ∧ n = 2 :=
    ensures_readInt16.map fun _ _ h => ⟨trivial, h⟩
  refine Sections.ensures_read.bind fun echoed n0 h0 => ?_
  refine Sections.ensures_read.bind fun announced n1 h1 => ?_
  refine (Ensures.fixedSection? _ Word.ensures_read).bind fun status n2 h2 => ?_
  refine (Ensures.fixedSection? _ Drive.State.ensures_read).bind fun state n3 h3 => ?_
  refine (Ensures.fixedSection? _ hposition).bind fun actual n4 h4 => ?_
  refine (Ensures.fixedSection? _ hposition).bind fun demand n5 h5 => ?_
  refine (Ensures.fixedSection? _ hcurrent).bind fun current n6 h6 => ?_
  refine (Ensures.fixedSection? _ Word.ensures_read).bind fun warning n7 h7 => ?_
  refine (Ensures.fixedSection? _ Drive.ErrorCode.ensures_read).bind fun errorCode n8 h8 => ?_
  refine (Ensures.fixedSection? _ MonitoringChannel.ensures_read).bind fun monitoring n9 h9 => ?_
  refine (Ensures.fixedSection? _ RealtimeConfiguration.ensures_read).bind
    fun configuration n10 h10 => ?_
  -- A configuration was read only if the echoed word asks for it.
  have hechoed : configuration.isSome →
      echoed.contains RequestSections.realtimeConfiguration := by
    intro hsome
    have hread := h10.1
    split at hread
    · assumption
    · rw [Sections.contains_difference_self (by decide), hsome] at hread
      cases hread
  refine Ensures.pure ⟨⟨h0.1, h3.2.1, h8.2.1, hechoed⟩, ?_⟩
  have hcarried : (configuration.isSome &&
      echoed.contains RequestSections.realtimeConfiguration) = configuration.isSome := by
    cases hsome : configuration.isSome with
    | false => rfl
    | true => exact hechoed hsome
  rw [h0.2, h1.2, h2.2.2, h3.2.2, h4.2.2, h5.2.2, h6.2.2, h7.2.2, h8.2.2, h9.2.2, h10.2.2]
  simp only [wireLength, echoesConfiguration, hcarried]
  omega

end StatusResponse

end ProcessData
end ServoLink
