import Mathlib.Algebra.Order.Ring.Nat
import Pam.Foundation.Run
import Pam.Protocol.ResponseCodec

namespace Pam.Server.SpanExport

open Foundation Option

/-! `export` offers spans to a bounded queue; one task gathers them into batches
and sends each to the collector. -/

structure Config where
  queueSize : Nat
  batchSize : Nat
  /-- `serde_json` and the pointer `/partialSuccess/rejectedSpans`. -/
  rejectedSpans : List UInt8 → Option (Option UInt64)

/-- What becomes of one request; the body of a reply over the limit is not read. -/
inductive Attempt where
  | unbuilt
  | failed
  | replied (status : Nat) (body : Option (List UInt8))

def retryable (status : Nat) : Bool := status ∈ [429, 502, 503, 504]

namespace Config

variable (config : Config)

def parseResponse (body : Option (List UInt8)) : Option UInt64 := do
  let bytes ← body
  if bytes = [] then return 0
  let rejected ← config.rejectedSpans bytes
  return rejected.getD 0

def sendWithRetry : (attempts : Nat) → (collector : List Attempt) → Option UInt64
  | 0, _ | _, [] | _, .unbuilt :: _ => none
  | attempts + 1, .failed :: collector => sendWithRetry attempts collector
  | attempts + 1, .replied status body :: collector =>
    if 200 ≤ status ∧ status < 300 then config.parseResponse body
    else if retryable status then sendWithRetry attempts collector
    else none

end Config

/-- `sending` is set while the task waits for the collector. -/
structure Exporter where
  offered : Nat
  queued : Nat
  batch : Nat
  sending : Bool
  exported : UInt64
  rejected : UInt64
  dropped : UInt64
  errors : UInt64

/-- A batch that cannot be serialized is not sent. -/
inductive Label where
  | offer
  | receive
  | send
  | sent (collector : Option (List Attempt))

def settle (exporter : Exporter) (outcome : Option UInt64) : Exporter :=
  let count := UInt64.ofNat exporter.batch
  match outcome with
  | some rejected => { exporter with
      batch := 0, sending := false
      exported := exporter.exported + if rejected ≤ count then count - rejected else 0
      rejected := exporter.rejected + rejected }
  | none => { exporter with
      batch := 0, sending := false
      errors := exporter.errors + 1
      dropped := exporter.dropped + count }

variable (config : Config)

def exportNext (exporter : Exporter) : Label → Option Exporter
  | .offer => some <|
    if exporter.queued < config.queueSize then
      { exporter with offered := exporter.offered + 1, queued := exporter.queued + 1 }
    else { exporter with offered := exporter.offered + 1, dropped := exporter.dropped + 1 }
  | .receive =>
    if exporter.sending ∨ exporter.queued = 0 ∨ config.batchSize ≤ exporter.batch then none
    else some { exporter with queued := exporter.queued - 1, batch := exporter.batch + 1 }
  | .send =>
    if exporter.sending ∨ exporter.batch = 0 then none else some { exporter with sending := true }
  | .sent collector =>
    if exporter.sending then some (settle exporter (collector.bind (config.sendWithRetry 3)))
    else none

def exportMachine : Machine Exporter Label where
  start := ⟨0, 0, 0, false, 0, 0, 0, 0⟩
  next := exportNext config

/-- Spans of a batch that is still gathered wait like those of the queue. -/
def Exporter.Balanced (exporter : Exporter) : Prop :=
  exporter.offered = exporter.exported.toNat + exporter.rejected.toNat + exporter.dropped.toNat +
    exporter.queued + exporter.batch

def Exporter.CountsOn (exporter target : Exporter) : Prop :=
  exporter.exported ≤ target.exported ∧ exporter.rejected ≤ target.rejected ∧
    exporter.dropped ≤ target.dropped ∧ exporter.errors ≤ target.errors

/-- The collector rejects no more spans than it was sent, and the spans can be
counted. -/
def Honest (exporter : Exporter) : Label → Prop
  | .offer => exporter.offered + 1 < 2 ^ 64
  | .sent collector =>
    ∀ rejected ∈ collector.bind (config.sendWithRetry 3), rejected.toNat ≤ exporter.batch
  | _ => True

structure Accounted (exporter : Exporter) : Prop where
  balanced : exporter.Balanced
  counted : exporter.offered < 2 ^ 64
  errors : exporter.errors ≤ exporter.dropped
  sent : exporter.sending → 0 < exporter.batch

variable {config}

theorem accounted_settle (accounted : Accounted exporter) (sending : exporter.sending = true)
    (honest : ∀ rejected ∈ outcome, rejected.toNat ≤ exporter.batch) :
    Accounted (settle exporter outcome) ∧ exporter.CountsOn (settle exporter outcome) := by
  obtain ⟨balanced, counted, errors, sent⟩ := accounted
  have nonempty := sent sending
  rw [Exporter.Balanced] at balanced
  have count : (UInt64.ofNat exporter.batch).toNat = exporter.batch :=
    UInt64.toNat_ofNat_of_lt' (by grind)
  rw [UInt64.le_iff_toNat_le] at errors
  cases outcome with
  | none => refine ⟨⟨?_, counted, ?_, nofun⟩, ?_⟩ <;>
      simp only [settle, Exporter.Balanced, Exporter.CountsOn, UInt64.le_iff_toNat_le,
        UInt64.toNat_add, UInt64.toNat_one] <;> omega
  | some rejected =>
    have fewer := honest rejected rfl
    have within : rejected ≤ UInt64.ofNat exporter.batch := by
      rwa [UInt64.le_iff_toNat_le, count]
    simp only [settle, if_pos within]
    refine ⟨⟨?_, counted, ?_, nofun⟩, ?_⟩ <;>
      simp only [Exporter.Balanced, Exporter.CountsOn, UInt64.le_iff_toNat_le, UInt64.toNat_add,
        UInt64.toNat_sub_of_le _ _ within] <;> omega

theorem accounted_next (accounted : Accounted exporter) (honest : Honest config exporter label)
    (step : (exportMachine config).next exporter label = some target) :
    Accounted target ∧ (target.sending = false → target.Balanced) ∧ exporter.CountsOn target := by
  suffices kept : Accounted target ∧ exporter.CountsOn target from
    ⟨kept.1, fun _ => kept.1.balanced, kept.2⟩
  have ⟨balanced, counted, errors, sent⟩ := accounted
  rw [Exporter.Balanced] at balanced
  have same : exporter.CountsOn exporter :=
    ⟨UInt64.le_refl _, UInt64.le_refl _, UInt64.le_refl _, UInt64.le_refl _⟩
  cases label with
  | offer =>
    rw [Honest] at honest
    rw [UInt64.le_iff_toNat_le] at errors
    cases step
    split
    · refine ⟨⟨?_, honest, accounted.errors, sent⟩, same⟩
      simp only [Exporter.Balanced]
      omega
    · refine ⟨⟨?_, honest, ?_, sent⟩, ?_⟩ <;>
        simp only [Exporter.Balanced, Exporter.CountsOn, UInt64.le_iff_toNat_le, UInt64.toNat_add,
          UInt64.toNat_one] <;> omega
  | receive =>
    obtain ⟨waits, taken⟩ := ite_none_left_eq_some.mp step
    cases taken
    refine ⟨⟨?_, counted, errors, fun _ => Nat.succ_pos _⟩, same⟩
    simp only [Exporter.Balanced]
    omega
  | send =>
    obtain ⟨gathered, taken⟩ := ite_none_left_eq_some.mp step
    cases taken
    exact ⟨⟨balanced, counted, errors, fun _ => by grind⟩, same⟩
  | sent collector =>
    obtain ⟨sending, taken⟩ := ite_none_right_eq_some.mp step
    cases taken
    exact accounted_settle accounted sending honest

theorem spans_accounted (config : Config) (labels : List Label)
    (honest : ∀ step ∈ (exportMachine config).transitions (exportMachine config).start labels,
      Honest config step.source step.label) :
    ∀ step ∈ (exportMachine config).transitions (exportMachine config).start labels,
      (step.target.sending = false → step.target.Balanced) ∧ step.source.CountsOn step.target :=
  (exportMachine config).transitions_of_guarded Accounted (Honest config) _
    accounted_next ⟨rfl, Nat.two_pow_pos 64, UInt64.le_refl 0, nofun⟩ honest

def partialSuccess (rejected : String) : List UInt8 := Protocol.asciiBytes
    ("\x7b\"partialSuccess\":\x7b\"rejectedSpans\":" ++ rejected ++ "\x7d\x7d")

/-- With the reader of JSON on two bodies. -/
def sampleConfig : Config where
  queueSize := 2
  batchSize := 2
  rejectedSpans body := if body = partialSuccess "1" then some (some 1)
    else if body = partialSuccess "5" then some (some 5) else none

/-- One of three spans does not fit; the others are sent at the third attempt. -/
def threeSpans (rejected : String) : List Label := [.offer, .offer, .offer, .receive, .receive,
    .send, .sent (some [.failed, .replied 503 none, .replied 200 (some (partialSuccess rejected))])]

theorem three_spans_accounted :
    let machine := exportMachine sampleConfig
    (machine.finish machine.start (threeSpans "1")).rejected = 1 ∧
    ∀ step ∈ machine.transitions machine.start (threeSpans "1"),
      (step.target.sending = false → step.target.Balanced) ∧ step.source.CountsOn step.target := by
  refine ⟨by decide +kernel, spans_accounted sampleConfig (threeSpans "1") ?_⟩
  have sizes : sampleConfig.queueSize = 2 ∧ sampleConfig.batchSize = 2 := ⟨rfl, rfl⟩
  have read : sampleConfig.sendWithRetry 3
      [.failed, .replied 503 none, .replied 200 (some (partialSuccess "1"))] = some 1 := by
    decide +kernel
  simp [Machine.transitions, threeSpans, exportMachine, exportNext, Honest, sizes, read]

theorem rejected_beyond_batch : ¬ ∀ (config : Config) (labels : List Label),
    ∀ step ∈ (exportMachine config).transitions (exportMachine config).start labels,
      (step.target.sending = false → step.target.Balanced) ∧ step.source.CountsOn step.target := by
  intro accounted
  have last := accounted sampleConfig (threeSpans "5") _ (List.getLast_mem (List.cons_ne_nil _ _))
  exact absurd (last.1 (by decide +kernel)) (by unfold Exporter.Balanced; decide +kernel)

end Pam.Server.SpanExport
