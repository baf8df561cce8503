import Coggml.Basic
import Mathlib.Tactic.Ring
/-!
# The phase-3 consensus protocol

`phase3_initiate_consensus` opens a protocol over a list of participants, each accepted
`phase3_consensus_vote` adds `1/n` to the agreement level for an agree vote and `0.5/n` to the
confidence level for any vote, and `phase3_check_consensus_status` declares consensus at
agreement 0.7 and confidence 0.8 within a timeout of 300 seconds. A vote is accepted from any
participant of an open protocol, as often as it is cast. Runs carry the log of accepted votes
(`ConsensusRun`), and along every run each level is its count of logged votes over `n`
(`Phase3System.Tally`).

Only the consensus fields of `phase3_self_modification_system_t` are modelled; timestamps are
the `uint64_t` values of `time(NULL)`, passed as arguments.
-/

namespace Coggml

/-- `PHASE3_MAX_CONSENSUS_NODES`. -/
def phase3MaxConsensusNodes : Nat := 64
/-- `sizeof(consensus->topic)`. -/
def consensusTopicSize : Nat := 128

/-- `consensus_protocol_t`, without its change list. -/
structure ConsensusProtocol where
  /-- Slot number plus one. -/
  consensusId : Nat
  /-- `topic[128]`. -/
  topic : CString
  /-- Participant agent ids, `participant_count` of them. -/
  participantAgents : List Nat
  /-- Allocated participant slots. -/
  participantCapacity : Nat
  /-- Agreement level. -/
  agreementLevel : ℚ
  /-- Confidence level. -/
  confidenceLevel : ℚ
  /-- Voting round. -/
  votingRound : Nat
  /-- Whether consensus was declared. -/
  consensusReached : Bool
  /-- `time(NULL)` at initiation. -/
  startTimestamp : UInt64
  /-- Seconds before the protocol times out. -/
  timeoutDuration : UInt64
  deriving DecidableEq

/-- The consensus part of `phase3_self_modification_system_t`. -/
structure Phase3System where
  /-- Protocols `0 .. consensus_count - 1`. -/
  activeConsensus : List ConsensusProtocol
  /-- Fixed at construction. -/
  consensusCapacity : Nat

/-- The consensus table `phase3_self_modification_init` allocates. -/
def phase3Init : Phase3System := ⟨[], phase3MaxConsensusNodes⟩

/-- `phase3_initiate_consensus` — the system and the new protocol's id, 0 for a `NULL` topic or
participant list, no participants, or a full table. `now` is `time(NULL)`. -/
def phase3InitiateConsensus (system : Phase3System) (topic : Option CString)
    (participants : Option (List Nat)) (now : UInt64) : Phase3System × Nat :=
  match topic, participants with
  | some topic, some participants =>
    if participants = [] then (system, 0)
    else if system.consensusCapacity ≤ system.activeConsensus.length then (system, 0)
    else
      let consensusId := system.activeConsensus.length + 1
      let consensus : ConsensusProtocol :=
        { consensusId, topic := copyName consensusTopicSize topic,
          participantAgents := participants, participantCapacity := participants.length + 2,
          agreementLevel := 0, confidenceLevel := 0, votingRound := 1, consensusReached := false,
          startTimestamp := now, timeoutDuration := 300 }
      ({ system with activeConsensus := system.activeConsensus ++ [consensus] }, consensusId)
  | _, _ => (system, 0)

/-- The levels after one accepted vote. -/
def ConsensusProtocol.recordVote (agreement : Bool) (c : ConsensusProtocol) : ConsensusProtocol :=
  let n : ℚ := c.participantAgents.length
  { c with agreementLevel := if agreement then c.agreementLevel + 1 / n else c.agreementLevel,
           confidenceLevel := c.confidenceLevel + 0.5 / n }

/-- `phase3_consensus_vote` — accepted from a participant of an open protocol. -/
def phase3ConsensusVote (system : Phase3System) (consensusId agentId : Nat) (agreement : Bool) :
    Phase3System × Bool :=
  if consensusId = 0 ∨ system.activeConsensus.length < consensusId then (system, false)
  else match system.activeConsensus[consensusId - 1]? with
    | none => (system, false)
    | some consensus =>
      if consensus.consensusReached then (system, false)
      else if !consensus.participantAgents.contains agentId then (system, false)
      else
        let protocols := system.activeConsensus.modify (ConsensusProtocol.recordVote agreement)
          (consensusId - 1)
        ({ system with activeConsensus := protocols }, true)

/-- Declare consensus. -/
def ConsensusProtocol.reach (c : ConsensusProtocol) : ConsensusProtocol :=
  { c with consensusReached := true }

/-- `phase3_check_consensus_status` — false after the timeout (measured with `uint64_t`
subtraction), true and recorded at agreement 0.7 and confidence 0.8. -/
def phase3CheckConsensusStatus (system : Phase3System) (consensusId : Nat) (now : UInt64) :
    Phase3System × Bool :=
  if consensusId = 0 ∨ system.activeConsensus.length < consensusId then (system, false)
  else match system.activeConsensus[consensusId - 1]? with
    | none => (system, false)
    | some consensus =>
      if consensus.timeoutDuration < now - consensus.startTimestamp then (system, false)
      else if 0.7 ≤ consensus.agreementLevel ∧ 0.8 ≤ consensus.confidenceLevel then
        let protocols := system.activeConsensus.modify ConsensusProtocol.reach (consensusId - 1)
        ({ system with activeConsensus := protocols }, true)
      else (system, false)

/-- An accepted vote: the protocol id, the voter and the vote. -/
abbrev Ballot := Nat × Nat × Bool

/-- A finite sequence of consensus calls from a system, with the votes it accepted in call
order. -/
inductive ConsensusRun (start : Phase3System) : List Ballot → Phase3System → Prop
  | refl : ConsensusRun start [] start
  | initiate {log : List Ballot} {system : Phase3System} (run : ConsensusRun start log system)
      (topic : Option CString) (participants : Option (List Nat)) (now : UInt64) :
      ConsensusRun start log (phase3InitiateConsensus system topic participants now).1
  | vote {log : List Ballot} {system : Phase3System} (run : ConsensusRun start log system)
      (consensusId agentId : Nat) (agreement : Bool) :
      ConsensusRun start
        (if (phase3ConsensusVote system consensusId agentId agreement).2
          then log ++ [(consensusId, agentId, agreement)] else log)
        (phase3ConsensusVote system consensusId agentId agreement).1
  | check {log : List Ballot} {system : Phase3System} (run : ConsensusRun start log system)
      (consensusId : Nat) (now : UInt64) :
      ConsensusRun start log (phase3CheckConsensusStatus system consensusId now).1

/-- The accepted votes on a protocol. -/
def votesOn (log : List Ballot) (consensusId : Nat) : Nat :=
  log.countP fun b => b.1 == consensusId

/-- The accepted agree votes on a protocol. -/
def agreesOn (log : List Ballot) (consensusId : Nat) : Nat :=
  log.countP fun b => b.1 == consensusId && b.2.2

/-- The distinct participants with an accepted agree vote on a protocol. -/
def agreeingParticipants (log : List Ballot) (consensusId : Nat) : List Nat :=
  ((log.filter fun b => b.1 == consensusId && b.2.2).map fun b => b.2.1).dedup

/-- What every run keeps: each protocol has participants, its levels are its logged agree votes
and logged votes over its participant count, and every logged vote names an existing protocol
and one of its participants. -/
structure Phase3System.Tally (system : Phase3System) (log : List Ballot) : Prop where
  /-- Every protocol has participants. -/
  participants : ∀ (k : Nat) (c : ConsensusProtocol), system.activeConsensus[k]? = some c →
    c.participantAgents ≠ []
  /-- Agreement is agree votes over `n`. -/
  agreement : ∀ (k : Nat) (c : ConsensusProtocol), system.activeConsensus[k]? = some c →
    c.agreementLevel = agreesOn log (k + 1) / c.participantAgents.length
  /-- Confidence is votes over `2n`. -/
  confidence : ∀ (k : Nat) (c : ConsensusProtocol), system.activeConsensus[k]? = some c →
    c.confidenceLevel = votesOn log (k + 1) / (2 * c.participantAgents.length)
  /-- Logged votes name a protocol and one of its participants. -/
  voters : ∀ b ∈ log, ∃ c, system.activeConsensus[b.1 - 1]? = some c ∧ 0 < b.1 ∧
    b.2.1 ∈ c.participantAgents

section Steps

variable {c : ConsensusProtocol} {agreement : Bool}

@[simp] theorem recordVote_participantAgents :
    (c.recordVote agreement).participantAgents = c.participantAgents := rfl

@[simp] theorem recordVote_agreementLevel :
    (c.recordVote agreement).agreementLevel =
      if agreement then c.agreementLevel + 1 / c.participantAgents.length else c.agreementLevel :=
  rfl

@[simp] theorem recordVote_confidenceLevel :
    (c.recordVote agreement).confidenceLevel = c.confidenceLevel + 0.5 / c.participantAgents.length :=
  rfl

@[simp] theorem reach_participantAgents : c.reach.participantAgents = c.participantAgents := rfl
@[simp] theorem reach_agreementLevel : c.reach.agreementLevel = c.agreementLevel := rfl
@[simp] theorem reach_confidenceLevel : c.reach.confidenceLevel = c.confidenceLevel := rfl

/-- What `phase3_initiate_consensus` can do: nothing, or append a protocol over a nonempty
participant list with both levels at zero. -/
theorem phase3InitiateConsensus_cases (system : Phase3System) (topic : Option CString)
    (participants : Option (List Nat)) (now : UInt64) :
    (phase3InitiateConsensus system topic participants now).1 = system ∨
      ∃ c : ConsensusProtocol, c.participantAgents ≠ [] ∧ c.agreementLevel = 0 ∧
        c.confidenceLevel = 0 ∧ (phase3InitiateConsensus system topic participants now).1 =
          { system with activeConsensus := system.activeConsensus ++ [c] } := by
  unfold phase3InitiateConsensus
  split
  · split
    · exact .inl rfl
    · split
      · exact .inl rfl
      · exact .inr ⟨_, ‹_›, rfl, rfl, rfl⟩
  · exact .inl rfl

/-- What `phase3_consensus_vote` can do: reject and change nothing, or accept a participant's
vote on a protocol and record it in that protocol's slot. -/
theorem phase3ConsensusVote_cases (system : Phase3System) (consensusId agentId : Nat)
    (agreement : Bool) :
    phase3ConsensusVote system consensusId agentId agreement = (system, false) ∨
      ∃ c, 0 < consensusId ∧ system.activeConsensus[consensusId - 1]? = some c ∧
        agentId ∈ c.participantAgents ∧
        phase3ConsensusVote system consensusId agentId agreement =
          ({ system with activeConsensus :=
              (system.activeConsensus.modify (ConsensusProtocol.recordVote agreement)
                (consensusId - 1)) }, true) := by
  unfold phase3ConsensusVote
  split
  · exact .inl rfl
  · split
    · exact .inl rfl
    · next c found =>
      split
      · exact .inl rfl
      · split
        · exact .inl rfl
        · next participant => exact .inr ⟨c, by omega, found, by simpa using participant, rfl⟩

/-- What `phase3_check_consensus_status` can do: answer false and change nothing, or, within the
timeout and at both thresholds, mark the protocol reached and answer true. -/
theorem phase3CheckConsensusStatus_cases (system : Phase3System) (consensusId : Nat)
    (now : UInt64) :
    phase3CheckConsensusStatus system consensusId now = (system, false) ∨
      ∃ c, 0 < consensusId ∧ system.activeConsensus[consensusId - 1]? = some c ∧
        now - c.startTimestamp ≤ c.timeoutDuration ∧ 0.7 ≤ c.agreementLevel ∧
        0.8 ≤ c.confidenceLevel ∧
        phase3CheckConsensusStatus system consensusId now =
          ({ system with activeConsensus :=
              (system.activeConsensus.modify ConsensusProtocol.reach (consensusId - 1)) }, true) := by
  unfold phase3CheckConsensusStatus
  split
  · exact .inl rfl
  · split
    · exact .inl rfl
    · next c found =>
      split
      · exact .inl rfl
      · split
        · next within levels =>
          exact .inr ⟨c, by omega, found, UInt64.not_lt.1 within, levels.1, levels.2, rfl⟩
        · exact .inl rfl

end Steps

section Tally

variable {system : Phase3System} {log : List Ballot}

@[simp] theorem votesOn_append (b : Ballot) (consensusId : Nat) :
    votesOn (log ++ [b]) consensusId =
      votesOn log consensusId + if b.1 = consensusId then 1 else 0 := by
  simp [votesOn, List.countP_singleton]

@[simp] theorem agreesOn_append (b : Ballot) (consensusId : Nat) :
    agreesOn (log ++ [b]) consensusId =
      agreesOn log consensusId + if b.1 = consensusId ∧ b.2.2 = true then 1 else 0 := by
  simp [agreesOn, List.countP_singleton]

/-- A slot after a write to slot `i`: the old protocol, rewritten if `i` is that slot. -/
theorem getElem?_modify_eq_some {f : ConsensusProtocol → ConsensusProtocol} {i k : Nat}
    {protocols : List ConsensusProtocol} {c' : ConsensusProtocol}
    (found : (protocols.modify f i)[k]? = some c') :
    ∃ c, protocols[k]? = some c ∧ c' = if i = k then f c else c := by
  simp only [List.getElem?_modify, Option.map_eq_map, Option.map_eq_some'] at found
  obtain ⟨c, found, rfl⟩ := found
  exact ⟨c, found, rfl⟩

/-- The converse reading: a slot that held `c` holds `c`, rewritten if it was written. -/
theorem getElem?_modify_of_eq_some {f : ConsensusProtocol → ConsensusProtocol} {i k : Nat}
    {protocols : List ConsensusProtocol} {c : ConsensusProtocol} (found : protocols[k]? = some c) :
    (protocols.modify f i)[k]? = some (if i = k then f c else c) := by
  simp [List.getElem?_modify, found]

/-- A slot after an append: an old slot, or the appended protocol at the old length. -/
theorem getElem?_concat_eq_some {protocols : List ConsensusProtocol} {c c' : ConsensusProtocol}
    {k : Nat} (found : (protocols ++ [c])[k]? = some c') :
    protocols[k]? = some c' ∨ k = protocols.length ∧ c' = c := by
  rcases Nat.lt_or_ge k protocols.length with below | above
  · exact .inl (by rwa [List.getElem?_append_left below] at found)
  · rw [List.getElem?_append_right above] at found
    cases past : k - protocols.length with
    | zero => exact .inr ⟨by omega, by simpa [past, eq_comm] using found⟩
    | succ j => simp [past] at found

/-- No logged vote names a protocol beyond the table. -/
theorem Phase3System.Tally.not_named (tally : system.Tally log) {consensusId : Nat}
    (beyond : system.activeConsensus.length < consensusId) : ∀ b ∈ log, b.1 ≠ consensusId := by
  intro b mem
  obtain ⟨c, found, positive, -⟩ := tally.voters b mem
  have below := (List.getElem?_eq_some_iff.1 found).1
  omega

/-- Opening a protocol keeps the tally: no logged vote names the new slot. -/
theorem Phase3System.Tally.initiate (tally : system.Tally log) (topic : Option CString)
    (participants : Option (List Nat)) (now : UInt64) :
    (phase3InitiateConsensus system topic participants now).1.Tally log := by
  rcases phase3InitiateConsensus_cases system topic participants now with
    same | ⟨c, named, agree, sure, opened⟩
  · rwa [same]
  rw [opened]
  have fresh := tally.not_named (Nat.lt_succ_self system.activeConsensus.length)
  have noVotes : votesOn log (system.activeConsensus.length + 1) = 0 :=
    List.countP_eq_zero.2 fun b mem => by simpa using fresh b mem
  have noAgrees : agreesOn log (system.activeConsensus.length + 1) = 0 :=
    List.countP_eq_zero.2 fun b mem => by simp [fresh b mem]
  refine ⟨fun k c' found => ?_, fun k c' found => ?_, fun k c' found => ?_, fun b mem => ?_⟩
  · rcases getElem?_concat_eq_some found with found | ⟨-, rfl⟩
    exacts [tally.participants k c' found, named]
  · rcases getElem?_concat_eq_some found with found | ⟨rfl, rfl⟩
    exacts [tally.agreement k c' found, by simp [agree, noAgrees]]
  · rcases getElem?_concat_eq_some found with found | ⟨rfl, rfl⟩
    exacts [tally.confidence k c' found, by simp [sure, noVotes]]
  · obtain ⟨c', found, positive, voter⟩ := tally.voters b mem
    have below := (List.getElem?_eq_some_iff.1 found).1
    exact ⟨c', by rwa [List.getElem?_append_left below], positive, voter⟩

/-- An accepted vote raises its protocol's levels by exactly what its ballot adds to the
counts. -/
theorem Phase3System.Tally.vote (tally : system.Tally log) (consensusId agentId : Nat)
    (agreement : Bool) :
    (phase3ConsensusVote system consensusId agentId agreement).1.Tally
      (if (phase3ConsensusVote system consensusId agentId agreement).2
        then log ++ [(consensusId, agentId, agreement)] else log) := by
  rcases phase3ConsensusVote_cases system consensusId agentId agreement with
    same | ⟨c, positive, found, member, accepted⟩
  · rw [same]
    exact tally
  rw [accepted, if_pos rfl]
  refine ⟨fun k c' now => ?_, fun k c' now => ?_, fun k c' now => ?_, fun b mem => ?_⟩
  · obtain ⟨old, was, rfl⟩ := getElem?_modify_eq_some now
    split <;> simpa using tally.participants k old was
  · obtain ⟨old, was, rfl⟩ := getElem?_modify_eq_some now
    have level := tally.agreement k old was
    split
    · next slot =>
      obtain rfl : consensusId = k + 1 := by omega
      cases agreement <;> simp [level, add_div]
    · next slot => simp [level, show consensusId ≠ k + 1 by omega]
  · obtain ⟨old, was, rfl⟩ := getElem?_modify_eq_some now
    have level := tally.confidence k old was
    split
    · next slot =>
      obtain rfl : consensusId = k + 1 := by omega
      rw [recordVote_confidenceLevel, recordVote_participantAgents, level, votesOn_append,
        if_pos rfl]
      push_cast
      ring
    · next slot => simp [level, show consensusId ≠ k + 1 by omega]
  · rcases List.mem_append.1 mem with old | new
    · obtain ⟨c', was, positive', voter⟩ := tally.voters b old
      exact ⟨_, getElem?_modify_of_eq_some was, positive', by split <;> exact voter⟩
    · obtain rfl := List.mem_singleton.1 new
      exact ⟨_, getElem?_modify_of_eq_some found, positive, by simpa using member⟩

/-- A status check changes no level, participant list or log. -/
theorem Phase3System.Tally.check (tally : system.Tally log) (consensusId : Nat) (now : UInt64) :
    (phase3CheckConsensusStatus system consensusId now).1.Tally log := by
  rcases phase3CheckConsensusStatus_cases system consensusId now with
    same | ⟨-, -, -, -, -, -, reached⟩
  · rwa [same]
  rw [reached]
  refine ⟨fun k c' now => ?_, fun k c' now => ?_, fun k c' now => ?_, fun b mem => ?_⟩
  · obtain ⟨old, was, rfl⟩ := getElem?_modify_eq_some now
    split <;> simpa using tally.participants k old was
  · obtain ⟨old, was, rfl⟩ := getElem?_modify_eq_some now
    split <;> simpa using tally.agreement k old was
  · obtain ⟨old, was, rfl⟩ := getElem?_modify_eq_some now
    split <;> simpa using tally.confidence k old was
  · obtain ⟨c', was, positive, voter⟩ := tally.voters b mem
    exact ⟨_, getElem?_modify_of_eq_some was, positive, by split <;> exact voter⟩

/-- The empty table has the tally of the empty log. -/
theorem phase3Init_tally : phase3Init.Tally [] :=
  ⟨fun _ _ found => by simp [phase3Init] at found, fun _ _ found => by simp [phase3Init] at found,
    fun _ _ found => by simp [phase3Init] at found, fun _ mem => by simp at mem⟩

/-- Every run keeps the tally. -/
theorem ConsensusRun.tally {start : Phase3System} (initial : start.Tally [])
    (run : ConsensusRun start log system) : system.Tally log := by
  induction run with
  | refl => exact initial
  | initiate _ topic participants now ih => exact ih.initiate topic participants now
  | vote _ consensusId agentId agreement ih => exact ih.vote consensusId agentId agreement
  | check _ consensusId now ih => exact ih.check consensusId now

end Tally

/-- Both thresholds of the check, read as counts of logged votes. -/
theorem Phase3System.Tally.thresholds_iff {system : Phase3System} {log : List Ballot}
    (tally : system.Tally log) {k : Nat} {c : ConsensusProtocol}
    (found : system.activeConsensus[k]? = some c) :
    ((0.7 : ℚ) ≤ c.agreementLevel ↔
        7 * c.participantAgents.length ≤ 10 * agreesOn log (k + 1)) ∧
      ((0.8 : ℚ) ≤ c.confidenceLevel ↔
        8 * c.participantAgents.length ≤ 5 * votesOn log (k + 1)) := by
  have counted : (0 : ℚ) < c.participantAgents.length := by
    exact_mod_cast List.length_pos.2 (tally.participants k c found)
  rw [tally.agreement k c found, tally.confidence k c found, le_div_iff₀ counted,
    le_div_iff₀ (mul_pos two_pos counted), ← Nat.cast_le (α := ℚ), ← Nat.cast_le (α := ℚ)]
  push_cast
  constructor <;> constructor <;> intro h <;> linarith

/-- A consensus declared along any run from the initial table: the protocol is within its
timeout, its accepted agree votes (each participant counted once per vote) are at least 70% of
its participants, its accepted votes at least 160%, and every vote on it came from a
participant. -/
theorem consensus_counts_repeated_votes {log : List Ballot} {system : Phase3System}
    (run : ConsensusRun phase3Init log system) {consensusId : Nat} {now : UInt64}
    (reached : (phase3CheckConsensusStatus system consensusId now).2 = true) :
    ∃ c, system.activeConsensus[consensusId - 1]? = some c ∧ 0 < consensusId ∧
      now - c.startTimestamp ≤ c.timeoutDuration ∧
      7 * c.participantAgents.length ≤ 10 * agreesOn log consensusId ∧
      8 * c.participantAgents.length ≤ 5 * votesOn log consensusId ∧
      ∀ b ∈ log, b.1 = consensusId → b.2.1 ∈ c.participantAgents := by
  have tally := run.tally phase3Init_tally
  rcases phase3CheckConsensusStatus_cases system consensusId now with
    same | ⟨c, positive, found, within, agree, sure, -⟩
  · simp [same] at reached
  have thresholds := tally.thresholds_iff found
  rw [Nat.sub_add_cancel positive] at thresholds
  refine ⟨c, found, positive, within, thresholds.1.1 agree, thresholds.2.1 sure,
    fun b mem named => ?_⟩
  obtain ⟨c', found', -, voter⟩ := tally.voters b mem
  rw [named, found] at found'
  rwa [Option.some.inj found']

/-- On an existing slot, the check answers whether the protocol is within its timeout and at
both thresholds. -/
theorem phase3CheckConsensusStatus_snd {system : Phase3System} {consensusId : Nat}
    {c : ConsensusProtocol} (positive : 0 < consensusId)
    (found : system.activeConsensus[consensusId - 1]? = some c) (now : UInt64) :
    (phase3CheckConsensusStatus system consensusId now).2 =
      decide (now - c.startTimestamp ≤ c.timeoutDuration ∧ 0.7 ≤ c.agreementLevel ∧
        0.8 ≤ c.confidenceLevel) := by
  have inside := (List.getElem?_eq_some_iff.1 found).1
  unfold phase3CheckConsensusStatus
  rw [if_neg (by omega), found]
  dsimp only
  split_ifs with late levels
  · exact (decide_eq_false fun ⟨within, _⟩ => UInt64.not_le.2 late within).symm
  · exact (decide_eq_true ⟨UInt64.not_lt.1 late, levels⟩).symm
  · exact (decide_eq_false fun ⟨_, reached⟩ => levels reached).symm

/-- Within its timeout, a protocol of any run is declared reached exactly when its accepted agree
votes number at least 70% of its participants and all its accepted votes at least 160%, repeats
counted. So when no participant votes twice, consensus is never declared, however they vote. -/
theorem single_votes_never_reach_consensus {log : List Ballot} {system : Phase3System}
    (run : ConsensusRun phase3Init log system) {consensusId : Nat} {c : ConsensusProtocol}
    (positive : 0 < consensusId) (found : system.activeConsensus[consensusId - 1]? = some c)
    {now : UInt64} (within : now - c.startTimestamp ≤ c.timeoutDuration) :
    ((phase3CheckConsensusStatus system consensusId now).2 = true ↔
      7 * c.participantAgents.length ≤ 10 * agreesOn log consensusId ∧
        8 * c.participantAgents.length ≤ 5 * votesOn log consensusId) ∧
      (votesOn log consensusId ≤ c.participantAgents.length →
        (phase3CheckConsensusStatus system consensusId now).2 = false) := by
  have tally := run.tally phase3Init_tally
  have thresholds := tally.thresholds_iff found
  rw [Nat.sub_add_cancel positive] at thresholds
  have reached : (phase3CheckConsensusStatus system consensusId now).2 = true ↔
      7 * c.participantAgents.length ≤ 10 * agreesOn log consensusId ∧
        8 * c.participantAgents.length ≤ 5 * votesOn log consensusId := by
    rw [phase3CheckConsensusStatus_snd positive found, decide_eq_true_iff, thresholds.1,
      thresholds.2]
    exact and_iff_right within
  refine ⟨reached, fun once => Bool.eq_false_iff.2 fun declared => ?_⟩
  have counted := List.length_pos.2 (tally.participants _ c found)
  have := (reached.1 declared).2
  omega

/-- The architecture-expansion consensus of the phase-3 test: five agents, each voting agree
once. -/
def unanimousConsensus : Phase3System :=
  let opened := (phase3InitiateConsensus phase3Init (some (cstr "ExpandCognitiveCapabilities"))
    (some [5001, 5002, 5003, 5004, 5005]) 1000).1
  let vote (agent : Nat) (system : Phase3System) := (phase3ConsensusVote system 1 agent true).1
  vote 5005 (vote 5004 (vote 5003 (vote 5002 (vote 5001 opened))))

/-- The votes of that run, one agree vote per participant. -/
def unanimousLog : List Ballot := [5001, 5002, 5003, 5004, 5005].map fun agent => (1, agent, true)

/-- The protocol after the five votes: full agreement, confidence one half. -/
def unanimousProtocol : ConsensusProtocol :=
  ⟨1, copyName consensusTopicSize (cstr "ExpandCognitiveCapabilities"),
    [5001, 5002, 5003, 5004, 5005], 7, 1, 1 / 2, 1, false, 1000, 300⟩

/-- The five votes are a consensus run. -/
theorem unanimousConsensus_run : ConsensusRun phase3Init unanimousLog unanimousConsensus :=
  let opened := ConsensusRun.initiate (.refl : ConsensusRun phase3Init [] phase3Init)
    (some (cstr "ExpandCognitiveCapabilities")) (some [5001, 5002, 5003, 5004, 5005]) 1000
  ((((opened.vote 1 5001 true).vote 1 5002 true).vote 1 5003 true).vote 1 5004 true).vote 1
    5005 true

/-- The table after the five votes holds `unanimousProtocol`. -/
theorem unanimousConsensus_protocols : unanimousConsensus.activeConsensus = [unanimousProtocol] := by
  simp [unanimousConsensus, unanimousProtocol, phase3ConsensusVote, phase3InitiateConsensus,
    phase3Init, phase3MaxConsensusNodes, ConsensusProtocol.recordVote]
  norm_num

/-- Every participant of the phase-3 test voted once, so the check declares nothing. -/
theorem unanimous_votes_thresholds :
    unanimousConsensus.activeConsensus[1 - 1]? = some unanimousProtocol ∧
      (1000 : UInt64) - unanimousProtocol.startTimestamp ≤ unanimousProtocol.timeoutDuration ∧
      ((phase3CheckConsensusStatus unanimousConsensus 1 1000).2 = true ↔
        7 * unanimousProtocol.participantAgents.length ≤ 10 * agreesOn unanimousLog 1 ∧
          8 * unanimousProtocol.participantAgents.length ≤ 5 * votesOn unanimousLog 1) ∧
      (votesOn unanimousLog 1 ≤ unanimousProtocol.participantAgents.length →
        (phase3CheckConsensusStatus unanimousConsensus 1 1000).2 = false) :=
  have found : unanimousConsensus.activeConsensus[1 - 1]? = some unanimousProtocol := by
    rw [unanimousConsensus_protocols]; rfl
  have within : (1000 : UInt64) - unanimousProtocol.startTimestamp ≤
      unanimousProtocol.timeoutDuration := by decide
  ⟨found, within, single_votes_never_reach_consensus unanimousConsensus_run (by decide) found within⟩

/-- One agreeing vote from each of the five participants leaves the consensus pending. -/
theorem unanimous_single_votes_pending :
    ConsensusRun phase3Init unanimousLog unanimousConsensus ∧
      unanimousConsensus.activeConsensus.map ConsensusProtocol.participantAgents =
        [[5001, 5002, 5003, 5004, 5005]] ∧
      (phase3CheckConsensusStatus unanimousConsensus 1 1000).2 = false := by
  refine ⟨unanimousConsensus_run, by rw [unanimousConsensus_protocols]; rfl, ?_⟩
  simp [phase3CheckConsensusStatus, unanimousConsensus_protocols, unanimousProtocol]
  norm_num

/-- Two participants, and participant 5001 voting agree four times. -/
def soloConsensus : Phase3System :=
  let opened :=
    (phase3InitiateConsensus phase3Init (some (cstr "Approve")) (some [5001, 5002]) 1000).1
  let vote (system : Phase3System) := (phase3ConsensusVote system 1 5001 true).1
  vote (vote (vote (vote opened)))

/-- The votes of that run. -/
def soloLog : List Ballot := List.replicate 4 (1, 5001, true)

/-- Each of the four votes is accepted. -/
theorem soloConsensus_run : ConsensusRun phase3Init soloLog soloConsensus :=
  let opened := ConsensusRun.initiate (.refl : ConsensusRun phase3Init [] phase3Init)
    (some (cstr "Approve")) (some [5001, 5002]) 1000
  (((opened.vote 1 5001 true).vote 1 5001 true).vote 1 5001 true).vote 1 5001 true

/-- Agreement 2 and confidence 1: the check declares consensus. -/
theorem soloConsensus_reached : (phase3CheckConsensusStatus soloConsensus 1 1000).2 = true := by
  simp [phase3CheckConsensusStatus, soloConsensus, phase3ConsensusVote, phase3InitiateConsensus,
    phase3Init, phase3MaxConsensusNodes, ConsensusProtocol.recordVote]
  norm_num

/-- One participant voting agree twice reaches consensus, though it is one of two participants. -/
theorem repeated_agree_votes_reach_consensus :
    ConsensusRun phase3Init soloLog soloConsensus ∧
      (phase3CheckConsensusStatus soloConsensus 1 1000).2 = true ∧
      soloConsensus.activeConsensus.map ConsensusProtocol.participantAgents = [[5001, 5002]] ∧
      agreeingParticipants soloLog 1 = [5001] ∧
      10 * (agreeingParticipants soloLog 1).length < 7 * [5001, 5002].length :=
  ⟨soloConsensus_run, soloConsensus_reached, rfl, by decide, by decide⟩

/-- The consensus reached by the repeated votes passes the thresholds on the votes as counted. -/
theorem soloConsensus_counts_votes :
    ConsensusRun phase3Init soloLog soloConsensus ∧
      (phase3CheckConsensusStatus soloConsensus 1 1000).2 = true ∧
      ∃ c, soloConsensus.activeConsensus[1 - 1]? = some c ∧ 0 < 1 ∧
        1000 - c.startTimestamp ≤ c.timeoutDuration ∧
        7 * c.participantAgents.length ≤ 10 * agreesOn soloLog 1 ∧
        8 * c.participantAgents.length ≤ 5 * votesOn soloLog 1 ∧
        ∀ b ∈ soloLog, b.1 = 1 → b.2.1 ∈ c.participantAgents :=
  ⟨soloConsensus_run, soloConsensus_reached,
    consensus_counts_repeated_votes soloConsensus_run soloConsensus_reached⟩

end Coggml
