import Telemetry.Proofs.Broker.Run

/-!
# What the broker manager does outwards

Most parts of an operation only work on the client, on the outbox and on the trace. The set-up of the manager, its
status and its backoff stay.
-/

namespace Telemetry.Broker

open Transport

variable {β σ : Type}

/-- The way from `b` to `b'` changes at most the client, what waits and the trace. -/
def Outward (b b' : Broker β σ) : Prop :=
  { b' with client := b.client, outbox := b.outbox, trace := b.trace } = b

variable {b b' b'' : Broker β σ}

theorem Outward.refl (b : Broker β σ) : Outward b b := rfl

/-- What does not depend on these parts stays. -/
theorem Outward.eq {α : Type} (h : Outward b b') (f : Broker β σ → α) :
    f { b' with client := b.client, outbox := b.outbox, trace := b.trace } = f b := congrArg f h

theorem Outward.trans (h : Outward b b') (h' : Outward b' b'') : Outward b b'' := by
  have later := h'.eq fun d => { d with client := b.client, outbox := b.outbox, trace := b.trace }
  exact later.trans h

theorem Outward.backoff (h : Outward b b') : b'.backoff = b.backoff := h.eq (·.backoff)

theorem Outward.status (h : Outward b b') : b'.status = b.status := h.eq (·.status)

theorem Outward.store (h : Outward b b') : b'.store = b.store := h.eq (·.store)

theorem Outward.enabled (h : Outward b b') : b'.enabled = b.enabled := h.eq (·.enabled)

theorem Outward.foldl {α : Type} {f : Broker β σ → α → Broker β σ} (h : ∀ b x, Outward b (f b x)) (xs : List α)
    (b : Broker β σ) : Outward b (xs.foldl f b) := by
  induction xs generalizing b with
  | nil => exact .refl b
  | cons x xs ih => exact (h b x).trans (ih _)

theorem outward_report (id : UInt32) (d : Delivery) (b : Broker β σ) : Outward b (b.report id d) := by
  unfold report
  split <;> rfl

theorem outward_reportOutcome (b : Broker β σ) (o : Outbox.Outcome) : Outward b (b.reportOutcome o) := by
  cases o with
  | delivered id => exact outward_report id .success b
  | dropped id => exact outward_report id .dropped b
  | requeued => exact .refl b

theorem outward_discard (b : Broker β σ) : Outward b b.discard := by
  have emptied : Outward b { b with outbox := .empty } := rfl
  exact emptied.trans (.foldl (fun b e => outward_report e.id .dropped b) b.outbox.entries _)

theorem outward_enqueue (e : Outbox.Entry) (b : Broker β σ) : Outward b (b.enqueue e).2 := by
  unfold enqueue
  split <;> rfl

section Client

variable [Client β]

theorem outward_closeSession (b : Broker β σ) : Outward b b.closeSession := rfl

theorem outward_send (m : Message) (b : Broker β σ) : Outward b (b.send m).2 := rfl

theorem outward_sendEach (es : List Outbox.Entry) (b : Broker β σ) : Outward b (b.sendEach es).2 := by
  induction es generalizing b with
  | nil => exact .refl b
  | cons e es ih => exact (outward_send (message e) b).trans (ih _)

theorem outward_drain (b : Broker β σ) : Outward b b.drain := by
  let sent := b.sendEach b.outbox.due
  let drained : Broker β σ := { sent.2 with outbox := (b.outbox.drain sent.1).2 }
  have emptied : Outward sent.2 drained := rfl
  exact (outward_sendEach b.outbox.due b).trans (emptied.trans (.foldl outward_reportOutcome _ drained))

theorem outward_publish (id : UInt32) (topic : String) (payload : List UInt8) (b : Broker β σ) :
    Outward b (b.publish id topic payload).2 := by
  refine Outward.trans ?_ (outward_report _ _ _)
  unfold deliver
  split
  · exact .refl b
  · split
    · dsimp only
      split
      · exact outward_send _ b
      · exact (outward_send _ b).trans (outward_enqueue _ _)
    · exact outward_enqueue _ b

theorem outward_publishRecord (r : Record) (b : Broker β σ) : Outward b (b.publishRecord r).2 := by
  unfold publishRecord
  split
  · exact outward_publish _ _ _ b
  · exact outward_report _ _ b

theorem outward_testConnection (b : Broker β σ) : Outward b b.testConnection.2 := by
  unfold testConnection
  split
  · exact outward_send _ b
  · exact .refl b

end Client

end Telemetry.Broker
