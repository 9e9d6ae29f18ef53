import Netflume.SamplingTable
import Netflume.DecoderLedger

/-! # Looking up a rate

`Decoder.sampling_rate`, against the option records of the messages.  While no rate
is evicted a lookup answers with the last statement its domain made, under every
spelling of the exporter, and a message carries the statement in force when its own
option records have been read. -/

namespace Netflume

open Library

/-- `Decoder.sampling_rate`. -/
def Decoder.samplingRate (decoder : Decoder) (exporter : Exporter) (domain : Option Nat) : Nat :=
  match decoder.sampling with
  | none => 1
  | some watch => watch.rateFor (exporterKey exporter) domain

/-- The domain a message speaks for. -/
def Message.speaker (message : Message) : SamplingKey := ⟨message.header.exporter, message.header.domain⟩

/-- What the option records of the messages state, in the order they arrived. -/
def saidBy (messages : List Message) : List (SamplingKey × Rec) :=
  messages.flatMap fun message => message.options.map fun opt => (message.speaker, opt)

theorem saidBy_snoc (messages : List Message) (message : Message) :
    saidBy (messages ++ [message]) = saidBy messages ++ message.options.map fun opt => (message.speaker, opt) := by
  simp [saidBy]

namespace SamplingWatch

variable {calls : List (SamplingKey × Rec)} {watch : SamplingWatch}

/-- The records of one message, folded in to the end. -/
theorem Recalls.noteAll {key : SamplingKey} {opts : List Rec} (recalls : watch.Recalls calls)
    (noted : (Decoder.noteAll key watch opts).1 = .ok ()) (quiet : (Decoder.noteAll key watch opts).2.evicted = 0) :
    (Decoder.noteAll key watch opts).2.Recalls (calls ++ opts.map fun opt => (key, opt)) := by
  induction opts generalizing calls watch with
  | nil =>
    rw [List.map_nil, List.append_nil]
    exact recalls
  | cons opt opts inductionHypothesis =>
    have first := recalls.note (quiet_of_noteAll_cons quiet)
    rw [Decoder.noteAll] at noted quiet ⊢
    generalize watch.note key opt = answer at first noted quiet ⊢
    obtain ⟨outcome, after⟩ := answer
    cases outcome with
    | error error => cases noted
    | ok change => simpa using inductionHypothesis first noted quiet

/-- A whole exporter is given a rate above one where every domain that states one states that. -/
theorem Recalls.rateFor_none_iff (recalls : watch.Recalls calls) {exporter : Exporter} {rate : Nat} (above : 1 < rate) :
    watch.rateFor exporter none = rate ↔ (∃ domain, lastStatement ⟨exporter, domain⟩ calls = some rate) ∧
      ∀ domain other, lastStatement ⟨exporter, domain⟩ calls = some other → 1 < other → other = rate := by
  constructor
  · intro given
    obtain one | ⟨held, isHeld, unanimous, answered⟩ := watch.rateFor_exporter exporter
    · omega
    · obtain rfl : held = rate := answered.symm.trans given
      obtain ⟨domain, stated, _⟩ := (recalls.holds_iff held).mp isHeld
      exact ⟨⟨domain, stated⟩, fun other rate last sampled =>
        unanimous rate ((recalls.holds_iff rate).mpr ⟨other, last, sampled⟩)⟩
  · rintro ⟨⟨domain, stated⟩, agreed⟩
    refine rateFor_of_unanimous ((recalls.holds_iff rate).mpr ⟨domain, stated, above⟩) fun other isHeld => ?_
    obtain ⟨speaker, last, sampled⟩ := (recalls.holds_iff other).mp isHeld
    exact agreed speaker other last sampled

end SamplingWatch

/-! ## The sampling watch's turn -/

namespace Core

/-- The turn of the sampling watch asks for nothing but the watch. -/
theorem note_sampling {first second : Core} (same : first.sampling = second.sampling) (key : SamplingKey)
    (opts : List Rec) :
    (first.note key opts).1 = (second.note key opts).1 ∧
      (first.note key opts).2.sampling = (second.note key opts).2.sampling := by
  rw [note, note, same]
  cases tracked : second.sampling with
  | none => exact ⟨rfl, same.trans rfl⟩
  | some watch =>
    simp only
    generalize Decoder.noteAll key watch opts = noted
    obtain ⟨outcome, after⟩ := noted
    cases outcome <;> exact ⟨rfl, rfl⟩

theorem note_tracked {core : Core} {watch : SamplingWatch} (tracked : core.sampling = some watch) {key : SamplingKey}
    {opts : List Rec} {rate : Nat} (noted : (core.note key opts).1 = .ok rate) :
    (Decoder.noteAll key watch opts).1 = .ok () ∧
      rate = (Decoder.noteAll key watch opts).2.rateFor key.exporter (some key.domain) ∧
      (core.note key opts).2.sampling = some (Decoder.noteAll key watch opts).2.takeEvents.2 := by
  rw [note, tracked] at noted ⊢
  simp only at noted ⊢
  generalize Decoder.noteAll key watch opts = answer at noted ⊢
  obtain ⟨outcome, after⟩ := answer
  cases outcome with
  | error error => cases noted
  | ok _ => exact ⟨rfl, (Except.ok.inj noted).symm, rfl⟩

/-- A delivery that returns states on its message the rate its own option records leave in force. -/
theorem deliver_rate {core : Core} {exporter : Exporter} {version : Nat} {header : Header} {flows options : List Rec}
    {result : Option Message} (answer : (core.deliver exporter version header flows options).1 = .ok result) :
    ∃ message, result = some message ∧ message.header = header ∧ message.options = options ∧
      (core.note ⟨exporter, header.domain⟩ options).1 = .ok message.samplingRate ∧
      (core.deliver exporter version header flows options).2.sampling =
        (core.note ⟨exporter, header.domain⟩ options).2.sampling := by
  have same := note_sampling (core.observe_sampling (Decoder.observation exporter version header flows.length
    options.length)) ⟨exporter, header.domain⟩ options
  rw [deliver_after, same.2, ← same.1]
  simp only [deliver] at answer
  generalize (core.observe (Decoder.observation exporter version header flows.length options.length)).2.note
    ⟨exporter, header.domain⟩ options = noted at answer ⊢
  obtain ⟨outcome, after⟩ := noted
  cases outcome with
  | error error => cases answer
  | ok rate =>
    cases answer
    exact ⟨_, rfl, rfl, rfl, rfl, rfl⟩

end Core

namespace Decoder

/-- A call that returns leaves the watch as it was and gives no message, or folds in the option records of the
message it returns and states on it the rate then in force. -/
theorem decode_notes {decoder : Decoder} {datagram : Datagram} {result : Option Message}
    (answer : (decoder.decodeDatagram datagram).1 = .ok result) :
    result = none ∧ (decoder.decodeDatagram datagram).2.sampling = decoder.sampling ∨
      ∃ message, result = some message ∧
        (decoder.core.note message.speaker message.options).1 = .ok message.samplingRate ∧
        (decoder.decodeDatagram datagram).2.sampling =
          (decoder.core.note message.speaker message.options).2.sampling := by
  obtain ⟨sameAnswer, sameCore⟩ := decode_core decoder datagram
  rw [sameAnswer] at answer
  have sampling : (decoder.decodeDatagram datagram).2.sampling = (decoder.core.step datagram).2.sampling :=
    congrArg Core.sampling sameCore
  rw [sampling]
  cases read : datagram.header with
  | none =>
    obtain ⟨nothing, same | same⟩ := Core.step_headerless read decoder.core <;> rw [answer] at nothing
    · exact .inl ⟨Except.ok.inj nothing, by rw [same]; rfl⟩
    · exact .inl ⟨Except.ok.inj nothing, by rw [same]; rfl⟩
  | some header =>
    right
    rw [Core.step_headed read] at answer ⊢
    obtain ⟨message, isMessage, sameHeader, sameOptions, rate, after⟩ := Core.deliver_rate answer
    have speaker : message.speaker = ⟨exporterKey datagram.exporter, header.domain⟩ := by
      rw [Message.speaker, sameHeader, Datagram.header_exporter read]
    have same := Core.note_sampling (show (decoder.core.afterRead datagram).sampling = decoder.core.sampling from rfl)
      message.speaker message.options
    rw [← speaker] at rate after
    rw [after, ← sameOptions, same.2]
    exact ⟨message, isMessage, same.1.symm.trans (sameOptions ▸ rate), rfl⟩

/-- While nothing is evicted the watch recalls what the messages said, and each message states its rate. -/
theorem recalls_run (trackSequence : Bool) (run : List Datagram)
    (returned : ∀ result ∈ (new trackSequence true).results run, ∃ message, result = .ok message) :
    ∃ watch, ((new trackSequence true).decodeAll run).sampling = some watch ∧
      (watch.evicted = 0 → watch.Recalls (saidBy (((new trackSequence true).results run).filterMap message?)) ∧
        ∀ before message after, ((new trackSequence true).results run).filterMap message? = before ++ message :: after →
          message.samplingRate = (lastStatement message.speaker (saidBy (before ++ [message]))).getD 1) := by
  induction run using List.reverseRecOn with
  | nil =>
    refine ⟨.new maxSamplingStreams, rfl, fun _ => ⟨fun _ => rfl, fun before message after none => ?_⟩⟩
    cases before <;> cases none
  | append_singleton run datagram inductionHypothesis =>
    rw [results, outputs_snoc] at returned ⊢
    obtain ⟨held, before, recalled⟩ := inductionHypothesis fun result member =>
      returned result (List.mem_append_left _ member)
    obtain ⟨result, answer⟩ := returned _ (List.mem_append_right _ (List.mem_singleton_self _))
    rw [decodeAll] at before ⊢
    rw [stateAfter_snoc, List.filterMap_append, List.filterMap_cons, List.filterMap_nil, answer]
    obtain ⟨rfl, same⟩ | ⟨message, rfl, noted, after⟩ := decode_notes answer
    · simp only [message?, List.append_nil]
      exact ⟨held, same.trans before, recalled⟩
    · have tracked : (stateAfter decodeDatagram (new trackSequence true) run).core.sampling = some held := before
      obtain ⟨folded, rate, keeps⟩ := Core.note_tracked tracked noted
      refine ⟨_, after.trans keeps, fun quiet => ?_⟩
      have quietBefore : held.evicted = 0 :=
        Nat.eq_zero_of_le_zero (quiet ▸ SamplingWatch.noteAll_evicted_le held message.speaker message.options)
      obtain ⟨recalls, stated⟩ := recalled quietBefore
      have recallsNow := recalls.noteAll folded quiet
      simp only [message?]
      refine ⟨(saidBy_snoc _ _).symm ▸ recallsNow, fun front other back split => ?_⟩
      obtain rfl | ⟨rest, last, rfl⟩ := List.eq_nil_or_concat' back
      · obtain ⟨rfl, isOther⟩ := List.append_inj' split rfl
        obtain rfl := List.singleton_inj.mp isOther
        rw [rate, saidBy_snoc]
        exact recallsNow.rateFor message.speaker
      · rw [← List.cons_append, ← List.append_assoc] at split
        exact stated front other rest (List.append_inj' split rfl).1

/-- A lookup answers with the last statement its domain made, and a message with the last one of its own domain. -/
theorem sampling_rate_of_messages (trackSequence : Bool) {run : List Datagram}
    (returned : ∀ result ∈ (new trackSequence true).results run, ∃ message, result = .ok message)
    (quiet : ∀ watch, ((new trackSequence true).decodeAll run).sampling = some watch → watch.evicted = 0) :
    let decoder := (new trackSequence true).decodeAll run
    let messages := ((new trackSequence true).results run).filterMap message?
    (∀ exporter domain, decoder.samplingRate exporter (some domain) =
        (lastStatement ⟨exporterKey exporter, domain⟩ (saidBy messages)).getD 1) ∧
      (∀ exporter rate, 1 < rate → (decoder.samplingRate exporter none = rate ↔
        (∃ domain, lastStatement ⟨exporterKey exporter, domain⟩ (saidBy messages) = some rate) ∧
          ∀ domain other, lastStatement ⟨exporterKey exporter, domain⟩ (saidBy messages) = some other → 1 < other →
            other = rate)) ∧
      ∀ before message after, messages = before ++ message :: after →
        message.samplingRate = (lastStatement message.speaker (saidBy (before ++ [message]))).getD 1 := by
  intro decoder messages
  obtain ⟨watch, tracked, recalled⟩ := recalls_run trackSequence run returned
  obtain ⟨recalls, stated⟩ := recalled (quiet watch tracked)
  have answers (exporter : Exporter) (domain : Option Nat) :
      decoder.samplingRate exporter domain = watch.rateFor (exporterKey exporter) domain := by
    rw [samplingRate, tracked]
  refine ⟨fun exporter domain => ?_, fun exporter rate above => ?_, stated⟩
  · rw [answers]
    exact recalls.rateFor ⟨exporterKey exporter, domain⟩
  · rw [answers]
    exact recalls.rateFor_none_iff above

/-- Two engines of one device, asked about under the spelling of a dual-stack socket. -/
theorem sampling_rate_of_messages_engines :
    let sampled (engine interval : UInt8) : Datagram :=
      ⟨[0, 5] ++ List.replicate 19 0 ++ [engine, 64, interval], .str "::ffff:192.0.2.1"⟩
    let run := [sampled 1 100, sampled 2 50, sampled 1 0, sampled 2 100]
    let decoder := (new true true).decodeAll run
    let messages := ((new true true).results run).filterMap message?
    (∀ exporter domain, decoder.samplingRate exporter (some domain) =
        (lastStatement ⟨exporterKey exporter, domain⟩ (saidBy messages)).getD 1) ∧
      (∀ exporter rate, 1 < rate → (decoder.samplingRate exporter none = rate ↔
        (∃ domain, lastStatement ⟨exporterKey exporter, domain⟩ (saidBy messages) = some rate) ∧
          ∀ domain other, lastStatement ⟨exporterKey exporter, domain⟩ (saidBy messages) = some other → 1 < other →
            other = rate)) ∧
      ∀ before message after, messages = before ++ message :: after →
        message.samplingRate = (lastStatement message.speaker (saidBy (before ++ [message]))).getD 1 := by
  intro sampled run
  have returned : ∀ result ∈ (new true true).results run, result.isOk = true := by decide +kernel
  have quiet : (((new true true).decodeAll run).sampling.all fun watch => watch.evicted = 0) = true := by
    decide +kernel
  apply sampling_rate_of_messages
  · intro result member
    cases result with
    | error stop => cases returned _ member
    | ok message => exact ⟨message, rfl⟩
  · intro watch tracked
    simpa [tracked] using quiet

end Decoder

end Netflume
