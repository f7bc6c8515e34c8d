import ReplyPipeline.Proofs.EnvelopeText
import ReplyPipeline.Proofs.HandlingAccounts
import ReplyPipeline.Proofs.Playing

/-!
# Chains of retries

A task that is published again is the task that was taken, with one more failed attempt; so is what
becomes of it however often it is published again. This rests on the text of an envelope: what was
decoded from any octets is decoded to the same from the octets that it is written as, as long as its
free-form values hold whole numbers only.
-/
namespace ReplyPipeline

open Json (Value)
open Decimal (Binary Format)

namespace RetryPolicy

theorem saturatingSucc_of_shouldRetry {p : RetryPolicy} {n : UInt32}
    (h : p.shouldRetry (Envelope.saturatingSucc n) = true) :
    Envelope.saturatingSucc n = n + 1 ∧ (n + 1).toNat = n.toNat + 1 := by
  have less : (Envelope.saturatingSucc n).toNat < p.maxAttempts.toNat :=
    UInt32.lt_iff_toNat_lt.1 (of_decide_eq_true h)
  have bound := p.maxAttempts.toNat_lt
  unfold Envelope.saturatingSucc at less ⊢
  split at less
  next room =>
    refine ⟨if_pos room, ?_⟩
    rw [UInt32.toNat_add]
    exact Nat.mod_eq_of_lt room
  next full => omega

end RetryPolicy

namespace Envelope

variable {e : Envelope} {P : Binary → Prop} {body : Bytes}

/-- No number of double precision occurs in the free-form values. -/
def isWhole (e : Envelope) : Bool :=
  e.raw.isWhole && e.agent.all fun c => c.botConfig.all Value.isWhole

theorem Writable.withAttempts (h : e.Writable P) (n : UInt32) :
    Writable P { e with attempts := n } :=
  ⟨h.created, h.raw, h.agent⟩

theorem Writable.whole (h : e.Writable P) (whole : e.isWhole = true) :
    e.Writable fun _ => False := by
  obtain ⟨raw, agent⟩ := Bool.and_eq_true_iff.1 whole
  refine ⟨h.created, h.raw.whole raw, fun c hc v hv => ?_⟩
  rw [hc] at agent
  have botConfig : c.botConfig.all Value.isWhole = true := agent
  rw [hv] at botConfig
  obtain ⟨readable, some⟩ := h.agent c hc v hv
  exact ⟨readable.whole botConfig, some⟩

/-- What was decoded is decoded again from what it is written as, with any number of attempts. -/
theorem ofBytes_toBytes_withAttempts (decoded : ofBytes body = .ok e) (whole : e.isWhole = true)
    (n : UInt32) : ofBytes { e with attempts := n }.toBytes = .ok { e with attempts := n } := by
  have writable := (writable_of_ofBytes decoded).withAttempts n
  obtain ⟨raw, botConfig, back, same⟩ := ofBytes_toBytes writable
  rw [back, same (writable.whole whole)]

end Envelope

namespace Traffic

variable {g : Gateway} {x : TaskHandler} {permits : Happening → Bool} {start s : Traffic}
  {body body' : Bytes} {e : Envelope} {k : Nat}

/-- What has become of octets by being taken, failing and being published again, so many times. -/
inductive RetryChain (s : Traffic) (body : Bytes) : Nat → Bytes → Prop
  | start : RetryChain s body 0 body
  | retried {k : Nat} {h : Handling} {n : UInt32} {m : Broker.Message} :
      RetryChain s body k h.delivery.message.body → h ∈ s.handlings →
      h.thread.rest = .done (.retried n) → m ∈ h.thread.past.pushed →
      RetryChain s body (k + 1) m.body

theorem pushed_of_retried (none : start.handlings = []) (run : Reaches g x permits start s)
    {h : Handling} (hh : h ∈ s.handlings) {n : UInt32} (ended : h.thread.rest = .done (.retried n))
    (decoded : Envelope.ofBytes h.delivery.message.body = .ok e) :
    h.thread.past.pushed = [.ofEnvelope { e with attempts := e.attempts + 1 }] ∧
      (e.attempts + 1).toNat = e.attempts.toNat + 1 := by
  obtain ⟨-, task, he, -, pushed, rfl, granted⟩ := ends_of_reaches none run hh ended
  obtain rfl : e = task := Except.ok.inj (decoded.symm.trans he)
  obtain ⟨next, count⟩ := RetryPolicy.saturatingSucc_of_shouldRetry granted
  refine ⟨?_, count⟩
  rw [pushed]
  unfold Envelope.recordFailure
  rw [next]

/-- What a chain of retries leads to is the task that it began with, with so many more failed
attempts. -/
theorem RetryChain.decoded (none : start.handlings = []) (run : Reaches g x permits start s)
    (decoded : Envelope.ofBytes body = .ok e) (whole : e.isWhole = true)
    (chain : s.RetryChain body k body') :
    ∃ n : UInt32, n.toNat = e.attempts.toNat + k ∧
      Envelope.ofBytes body' = .ok { e with attempts := n } := by
  induction chain with
  | start => exact ⟨e.attempts, rfl, decoded⟩
  | retried _ hh ended hm ih =>
    obtain ⟨n, count, taken⟩ := ih
    obtain ⟨pushed, next⟩ := pushed_of_retried none run hh ended taken
    rw [pushed, List.mem_singleton] at hm
    subst hm
    refine ⟨n + 1, ?_, Envelope.ofBytes_toBytes_withAttempts decoded whole (n + 1)⟩
    exact next.trans (by rw [count]; rfl)

end Traffic
end ReplyPipeline
