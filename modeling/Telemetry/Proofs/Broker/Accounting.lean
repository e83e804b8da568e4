import Telemetry.Proofs.Broker.Effect

/-!
# The accounts of the broker manager

Every message that was handed in is delivered, dropped or waiting. `Balanced` says so of a stretch of a
run: what was waiting before and what was handed in since is, up to order, what was delivered, what was
dropped and what is waiting now; those delivered and those dropped were reported in their order, and
the client accepted the messages of those delivered in that order. Balances are chained by
`Balanced.trans`, and `run_accounts` is the balance of a whole run.

Ids may repeat, so a report is matched with what was handed in by its place among the reports.
-/

namespace Telemetry.Broker

open Transport

variable {β σ : Type}

/-- What a call to publish hands in. -/
structure Submission where
  id : UInt32
  /-- What the client is to be given. A record that cannot be put into JSON has no message. -/
  message? : Option Message
  deriving DecidableEq, Repr

/-- The submission that an entry of the outbox stands for. -/
def Submission.ofEntry (e : Outbox.Entry) : Submission := ⟨e.id, some (message e)⟩

/-- What a call to publish hands in; other operations hand in nothing. -/
def Op.submission? (topics : Topics) : Op → Option Submission
  | publish id topic payload => some ⟨id, some { topic, payload, retain := true }⟩
  | publishRecord record =>
    some ⟨record.id, record.json?.map fun v =>
      { topic := topics.item record.id, payload := Text.utf8 v.render, retain := true }⟩
  | _ => none

/-- How many messages an operation sends of its own accord before it sends those handed in: a tick
that finds a session being set up begins with the presence, and a test sends nothing else. -/
def Op.announcements (before : Status) : Op → Nat
  | tick _ => if before = .connecting then 1 else 0
  | testConnection => 1
  | _ => 0

def waiting (b : Broker β σ) : List Submission := b.outbox.entries.map .ofEntry

/-- The messages that the client took. -/
def taken (sends : List (Message × Bool)) : List Message :=
  sends.filterMap fun s => if s.2 then some s.1 else none

/-- The ids that were reported as `d`. -/
def told (d : Delivery) (reports : List (UInt32 × Delivery)) : List UInt32 :=
  reports.filterMap fun r => if r.2 = d then some r.1 else none

@[simp] theorem taken_append (s t : List (Message × Bool)) :
    taken (s ++ t) = taken s ++ taken t := List.filterMap_append

@[simp] theorem told_append (d : Delivery) (r t : List (UInt32 × Delivery)) :
    told d (r ++ t) = told d r ++ told d t := List.filterMap_append

/-! ## Balances -/

/-- From `old` waiting and `calls` handed in to `new` waiting, with these sends and reports between. -/
def Balanced (old calls : List Submission) (sends : List (Message × Bool))
    (reports : List (UInt32 × Delivery)) (new : List Submission) : Prop :=
  ∃ delivered dropped : List Submission,
    (old ++ calls).Perm (delivered ++ dropped ++ new) ∧
    told .success reports = delivered.map (·.id) ∧
    told .dropped reports = dropped.map (·.id) ∧
    (taken sends).map some = delivered.map (·.message?)

variable {w w' w'' calls calls' : List Submission} {s s' : List (Message × Bool)}
  {r r' : List (UInt32 × Delivery)}

theorem Balanced.refl (w : List Submission) : Balanced w [] [] [] w :=
  ⟨[], [], by simp, rfl, rfl, rfl⟩

theorem Balanced.trans (h : Balanced w calls s r w') (h' : Balanced w' calls' s' r' w'') :
    Balanced w (calls ++ calls') (s ++ s') (r ++ r') w'' := by
  obtain ⟨d, x, hp, hd, hx, hm⟩ := h
  obtain ⟨d', x', hp', hd', hx', hm'⟩ := h'
  refine ⟨d ++ d', x ++ x', ?_, ?_, ?_, ?_⟩
  · rw [List.perm_iff_count] at hp hp' ⊢
    intro a
    have ha := hp a
    have ha' := hp' a
    simp only [List.count_append] at ha ha' ⊢
    omega
  · rw [told_append, hd, hd', List.map_append]
  · rw [told_append, hx, hx', List.map_append]
  · rw [taken_append, List.map_append, hm, hm', List.map_append]

/-- What waits behind is not touched, and comes to the front. -/
theorem Balanced.frame (h : Balanced w calls s r w') (rest : List Submission) :
    Balanced (w ++ rest) calls s r (rest ++ w') := by
  obtain ⟨d, x, hp, hd, hx, hm⟩ := h
  refine ⟨d, x, ?_, hd, hx, hm⟩
  rw [List.perm_iff_count] at hp ⊢
  intro a
  have ha := hp a
  simp only [List.count_append] at ha ⊢
  omega

theorem Balanced.deliver (id : UInt32) (m : Message) (w : List Submission) :
    Balanced w [⟨id, some m⟩] [(m, true)] [(id, .success)] w :=
  ⟨[⟨id, some m⟩], [], by simp, rfl, rfl, rfl⟩

theorem Balanced.drop (c : Submission) (hs : taken s = []) (w : List Submission) :
    Balanced w [c] s [(c.id, .dropped)] w :=
  ⟨[], [c], by simp, rfl, rfl, by simp [hs]⟩

theorem Balanced.queue (c : Submission) (hs : taken s = []) (w : List Submission) :
    Balanced w [c] s [(c.id, .queued)] (w ++ [c]) :=
  ⟨[], [], by simp, rfl, rfl, by simp [hs]⟩

/-- The balance of the ids alone. -/
theorem Balanced.count_id (h : Balanced w calls s r w') (id : UInt32) :
    (w.map (·.id)).count id + (calls.map (·.id)).count id =
      (told .success r).count id + (told .dropped r).count id + (w'.map (·.id)).count id := by
  obtain ⟨d, x, hp, hd, hx, -⟩ := h
  have := (hp.map (·.id)).count_eq id
  simp only [List.map_append, List.count_append] at this
  rw [hd, hx]
  omega

/-! ## Draining the outbox -/

/-- What one attempt does to the entry that was tried. -/
theorem balanced_attempt (e : Outbox.Entry) (answer : Bool) :
    Balanced [.ofEntry e] [] [(message e, answer)]
      ((Outbox.settle [e] [answer]).1.filterMap outcomeReport?)
      ((Outbox.settle [e] [answer]).2.map .ofEntry) := by
  cases answer with
  | true => exact ⟨[.ofEntry e], [], by simp [Outbox.settle], rfl, rfl, rfl⟩
  | false =>
    by_cases h : Outbox.maxRetries ≤ e.retries + 1
    · simp only [Outbox.settle, List.headD_cons, Bool.false_eq_true, if_false, if_pos h]
      exact ⟨[], [.ofEntry e], by simp, rfl, rfl, rfl⟩
    · simp only [Outbox.settle, List.headD_cons, Bool.false_eq_true, if_false, if_neg h]
      exact ⟨[], [], by simp [Submission.ofEntry, message], rfl, rfl, rfl⟩

theorem settle_cons (e : Outbox.Entry) (rest : List Outbox.Entry) (a : Bool) (answers : List Bool) :
    Outbox.settle (e :: rest) (a :: answers) =
      ((Outbox.settle [e] [a]).1 ++ (Outbox.settle rest answers).1,
        (Outbox.settle [e] [a]).2 ++ (Outbox.settle rest answers).2) := by
  cases a with
  | true => rfl
  | false =>
    by_cases h : Outbox.maxRetries ≤ e.retries + 1 <;> simp [Outbox.settle, h]

theorem balanced_settle (es : List Outbox.Entry) (answers : List Bool)
    (h : answers.length = es.length) :
    Balanced (es.map .ofEntry) [] ((es.map message).zip answers)
      ((Outbox.settle es answers).1.filterMap outcomeReport?)
      ((Outbox.settle es answers).2.map .ofEntry) := by
  induction es generalizing answers with
  | nil => exact .refl []
  | cons e rest ih =>
    obtain ⟨a, answers, rfl⟩ := List.exists_cons_of_length_eq_add_one h
    have first := (balanced_attempt e a).frame (rest.map .ofEntry)
    have others := (ih answers (by simpa using h)).frame
      ((Outbox.settle [e] [a]).2.map .ofEntry)
    rw [settle_cons]
    simpa using first.trans others

/-- The entries that were tried are settled, and those that stay go behind the others. -/
theorem balanced_drain (q : Outbox) (answers : List Bool) (h : answers.length = q.due.length) :
    Balanced (q.entries.map .ofEntry) [] ((q.due.map message).zip answers)
      ((q.drain answers).1.filterMap outcomeReport?)
      ((q.drain answers).2.entries.map .ofEntry) := by
  have := (balanced_settle q.due answers h).frame
    ((q.entries.drop Outbox.drainBudget).map .ofEntry)
  rw [← List.map_append, Outbox.due, List.take_append_drop] at this
  simpa [Outbox.drain, Outbox.due] using this

/-! ## Operations -/

/-- The accounts of a way from `b` to `b'`: its effect, and the balance of it. -/
def Accounts (b : Broker β σ) (calls : List Submission) (s : List (Message × Bool))
    (r : List (UInt32 × Delivery)) (b' : Broker β σ) : Prop :=
  Effect b s r b' ∧ Balanced b.waiting calls s r b'.waiting

variable {b b' b'' : Broker β σ}

theorem Accounts.trans (h : Accounts b calls s r b') (h' : Accounts b' calls' s' r' b'') :
    Accounts b (calls ++ calls') (s ++ s') (r ++ r') b'' :=
  ⟨h.1.trans h'.1, h.2.trans h'.2⟩

theorem Quiet.accounts (h : Quiet b b') : Accounts b [] [] [] b' := by
  refine ⟨h.toEffect, ?_⟩
  rw [waiting, waiting, h.outbox]
  exact .refl _

/-- Dropping all that waits balances. -/
theorem accounts_discard (b : Broker β σ) (h : b.reporting = true) :
    ∃ r, Accounts b [] [] r b.discard := by
  obtain ⟨effect, emptied⟩ := effect_discard b h
  refine ⟨_, effect, [], b.waiting, ?_, ?_, ?_, rfl⟩
  · simp [waiting, emptied, Outbox.empty]
  · simp [told]
  · simp [told, waiting, Submission.ofEntry, Function.comp_def]

/-- The accounts of a way whose first `n` sends, if any are made, only announce the presence. -/
def AccountsAfter (n : Nat) (b : Broker β σ) (calls : List Submission)
    (r : List (UInt32 × Delivery)) (b' : Broker β σ) : Prop :=
  ∃ s, Effect b s r b' ∧ (∀ x ∈ s.take n, ∃ retain, x.1 = b.presence retain) ∧
    Balanced b.waiting calls (s.drop n) r b'.waiting

theorem Accounts.after_zero (h : Accounts b calls s r b') : AccountsAfter 0 b calls r b' :=
  ⟨s, h.1, by simp, h.2⟩

theorem Quiet.accountsAfter (h : Quiet b b') (n : Nat) : AccountsAfter n b [] [] b' :=
  ⟨[], h.accounts.1, by simp, by simpa using h.accounts.2⟩

theorem AccountsAfter.between_quiet {n : Nat} {c c' : Broker β σ} (before : Quiet b c)
    (h : AccountsAfter n c calls r c') (after : Quiet c' b') : AccountsAfter n b calls r b' := by
  obtain ⟨s, effect, announced, balance⟩ := h
  refine ⟨s, ?_, ?_, ?_⟩
  · simpa using (before.toEffect.trans effect).trans after.toEffect
  · simpa only [presence, before.topics] using announced
  · simpa only [waiting, before.outbox, after.outbox] using balance

/-- A message that cannot be sent now is queued, or dropped for want of room. -/
theorem accounts_enqueue (e : Outbox.Entry) (b : Broker β σ) :
    Effect b [] [] (b.enqueue e).2 ∧ ∀ s, taken s = [] →
      Balanced b.waiting [.ofEntry e] s [(e.id, (b.enqueue e).1)] (b.enqueue e).2.waiting := by
  unfold enqueue
  split
  · next q hq =>
    refine ⟨⟨⟨[], by simp, rfl, rfl⟩, rfl, rfl, rfl⟩, fun s hs => ?_⟩
    have later := Balanced.queue (.ofEntry e) hs b.waiting
    simpa [waiting, Outbox.entries_push hq, Submission.ofEntry] using later
  · exact ⟨.refl b, fun s hs => .drop (.ofEntry e) hs b.waiting⟩

section Client

variable [Client β]

theorem accounts_drain (b : Broker β σ) (h : b.reporting = true) :
    ∃ s r, Accounts b [] s r b.drain := by
  obtain ⟨sent, kept, len⟩ := effect_sendEach b.outbox.due b
  obtain ⟨answers, c, hc⟩ : ∃ answers c, b.sendEach b.outbox.due = (answers, c) := ⟨_, _, rfl⟩
  rw [hc] at sent kept len
  have settled : Effect c [] [] { c with outbox := (b.outbox.drain answers).2 } :=
    ⟨⟨[], by simp, rfl, rfl⟩, rfl, rfl, rfl⟩
  obtain ⟨reported, kept'⟩ := effect_reportOutcomes (b.outbox.drain answers).1
    { c with outbox := (b.outbox.drain answers).2 } (sent.reporting.trans h)
  have drained : b.drain = (b.outbox.drain answers).1.foldl reportOutcome
      { c with outbox := (b.outbox.drain answers).2 } := by
    simp only [drain, hc]
  rw [drained]
  refine ⟨_, _, (sent.trans settled).trans reported, ?_⟩
  have balance := balanced_drain b.outbox answers len
  simpa [waiting, kept'] using balance

/-- A session that was being set up announces the presence once it stands, before all else. -/
theorem accounts_advance (b : Broker β σ) (h : b.reporting = true) :
    ∃ r, AccountsAfter (if b.status = .connecting then 1 else 0) b [] r b.advance := by
  cases hs : b.status with
  | connecting =>
    simp only [advance, hs, if_true]
    split
    · let c := (b.become .connected).resetBackoff
      have up : Quiet b c := (quiet_become _ b).trans (quiet_resetBackoff _)
      obtain ⟨sent, kept⟩ := effect_send (c.presence true) c
      obtain ⟨s, r, effect, balance⟩ :=
        accounts_drain (c.send (c.presence true)).2 (sent.reporting.trans (up.reporting.trans h))
      refine ⟨r, _, (up.toEffect.trans sent).trans effect, ?_, ?_⟩
      · intro x hx
        have : x = (c.presence true, (c.send (c.presence true)).1) := by simpa using hx
        exact ⟨true, by rw [this]; simp only [presence, up.topics]⟩
      · simp only [waiting, kept, up.outbox] at balance
        exact balance
    · split
      · exact ⟨[], ((quiet_closeSession b).trans
          ((quiet_become _ _).trans (quiet_reconnectIfDue _))).accountsAfter 1⟩
      · exact ⟨[], (Quiet.refl b).accountsAfter 1⟩
  | connected =>
    simp only [advance, hs, reduceCtorEq, if_false]
    split
    · obtain ⟨s, r, accounts⟩ := accounts_drain b h
      exact ⟨r, accounts.after_zero⟩
    · exact ⟨[], ((quiet_become _ b).trans
        ((quiet_resetBackoff _).trans (quiet_reconnectIfDue _))).accountsAfter 0⟩
  | disconnected | error =>
    simp only [advance, hs]
    exact ⟨[], (quiet_reconnectIfDue b).accountsAfter _⟩
  | disabled =>
    simp only [advance, hs]
    exact ⟨[], (Quiet.refl b).accountsAfter _⟩

theorem accounts_tick (linkUp : Bool) (b : Broker β σ) (h : b.reporting = true) :
    ∃ r, AccountsAfter (if b.status = .connecting then 1 else 0) b [] r (b.tick linkUp) := by
  have begun := quiet_beginTick b
  by_cases on : b.enabled = true
  · rw [tick, if_pos on]
    cases linkUp with
    | true =>
      have begun := begun.trans (quiet_look _)
      obtain ⟨r, accounts⟩ := accounts_advance b.beginTick.look (begun.reporting.trans h)
      exact ⟨r, accounts.between_quiet begun (quiet_endTick _)⟩
    | false =>
      exact ⟨[], ((begun.trans (quiet_park _)).trans (quiet_endTick _)).accountsAfter _⟩
  · rw [tick, if_neg on]
    exact ⟨[], (Quiet.refl b).accountsAfter _⟩

theorem accounts_testConnection (b : Broker β σ) : AccountsAfter 1 b [] [] b.testConnection.2 := by
  unfold testConnection
  split
  · obtain ⟨sent, kept⟩ := effect_send (b.presence false) b
    refine ⟨_, sent, fun x hx => ⟨false, ?_⟩, ?_⟩
    · have : x = (b.presence false, (b.send (b.presence false)).1) := by simpa using hx
      rw [this]
    · simpa [waiting, kept] using Balanced.refl b.waiting
  · exact (Quiet.refl b).accountsAfter 1

theorem accounts_deliver (id : UInt32) (topic : String) (payload : List UInt8) (b : Broker β σ) :
    ∃ s, Effect b s [] (b.deliver id topic payload).2 ∧
      Balanced b.waiting [⟨id, some { topic, payload, retain := true }⟩] s
        [(id, (b.deliver id topic payload).1)] (b.deliver id topic payload).2.waiting := by
  let m : Message := { topic, payload, retain := true }
  unfold deliver
  split
  · exact ⟨[], .refl b, .drop ⟨id, some m⟩ rfl b.waiting⟩
  · split
    · obtain ⟨sent, kept⟩ := effect_send m b
      dsimp only
      split
      · next took =>
        refine ⟨_, sent, ?_⟩
        have still : (b.send m).2.waiting = b.waiting := by rw [waiting, kept]; rfl
        rw [took, still]
        exact .deliver id m b.waiting
      · next refused =>
        have untaken : taken [(m, (b.send m).1)] = [] := by simpa [taken] using refused
        obtain ⟨effect, balance⟩ := accounts_enqueue { id, topic, payload } (b.send m).2
        refine ⟨_, by simpa using sent.trans effect, ?_⟩
        have still : (b.send m).2.waiting = b.waiting := by rw [waiting, kept]; rfl
        rw [← still]
        exact balance _ untaken
    · obtain ⟨effect, balance⟩ := accounts_enqueue { id, topic, payload } b
      exact ⟨[], effect, balance [] rfl⟩

theorem accounts_publish (id : UInt32) (topic : String) (payload : List UInt8) (b : Broker β σ)
    (h : b.reporting = true) :
    AccountsAfter 0 b [⟨id, some { topic, payload, retain := true }⟩]
      [(id, (b.publish id topic payload).1)] (b.publish id topic payload).2 := by
  obtain ⟨s, effect, balance⟩ := accounts_deliver id topic payload b
  obtain ⟨reported, kept⟩ := effect_report id (b.deliver id topic payload).1
    (b.deliver id topic payload).2 (effect.reporting.trans h)
  refine ⟨s, by simpa [publish] using effect.trans reported, by simp, ?_⟩
  simpa only [waiting, publish, kept, List.drop_zero] using balance

theorem accounts_publishRecord (record : Record) (b : Broker β σ) (h : b.reporting = true) :
    AccountsAfter 0 b ((Op.publishRecord record).submission? b.topics).toList
      [(record.id, (b.publishRecord record).1)] (b.publishRecord record).2 := by
  unfold publishRecord Record.encode
  cases hj : record.json? with
  | none =>
    obtain ⟨reported, kept⟩ := effect_report record.id .dropped b h
    refine ⟨[], reported, by simp, ?_⟩
    simpa [Op.submission?, waiting, kept, hj] using
      Balanced.drop ⟨record.id, none⟩ rfl b.waiting
  | some v =>
    dsimp only
    split
    · next payload hp =>
      split at hp
      · cases hp
      · cases hp
        simpa [Op.submission?, hj] using accounts_publish record.id _ _ b h
    · obtain ⟨reported, kept⟩ := effect_report record.id .dropped b h
      refine ⟨[], reported, by simp, ?_⟩
      simpa [Op.submission?, waiting, kept, hj] using
        Balanced.drop ⟨record.id, some _⟩ rfl b.waiting

variable [Storage σ]

theorem accounts_disable (b : Broker β σ) (h : b.reporting = true) :
    ∃ r, Accounts b [] [] r b.disable := by
  have off : Quiet b { b with enabled := false } := .of_same rfl rfl rfl rfl rfl
  have closed := off.trans (quiet_closeSession _)
  obtain ⟨r, discarded⟩ := accounts_discard { b with enabled := false }.closeSession
    (closed.reporting.trans h)
  have done := (quiet_persist false { b with enabled := false }.closeSession.discard).trans
    (quiet_become .disabled _)
  refine ⟨r, ?_⟩
  simpa [disable] using (closed.accounts.trans discarded).trans done.accounts

theorem accounts_clearEndpoint (b : Broker β σ) (h : b.reporting = true) :
    ∃ r, Accounts b [] [] r b.clearEndpoint.2 := by
  obtain ⟨r, off⟩ : ∃ r, Accounts b [] [] r (if b.enabled then b.disable else b) := by
    split
    · exact accounts_disable b h
    · exact ⟨[], (Quiet.refl b).accounts⟩
  have forgot : Quiet (if b.enabled then b.disable else b) b.clearEndpoint.2 := by
    unfold clearEndpoint
    generalize (if b.enabled then b.disable else b) = c
    dsimp only
    split <;> exact .of_same rfl rfl rfl rfl rfl
  exact ⟨r, by simpa using off.trans forgot.accounts⟩

/-- Each operation balances, and a call to publish is reported once, with the answer it gives. -/
theorem accounts_perform (op : Op) (b : Broker β σ) (h : b.reporting = true) :
    ∃ r, AccountsAfter (op.announcements b.status) b (op.submission? b.topics).toList r
        (op.perform b).2 ∧
      ∀ c, op.submission? b.topics = some c →
        ∃ d, (op.perform b).1 = some d ∧ r = [(c.id, d)] := by
  cases op with
  | init linkUp => exact ⟨[], (quiet_init linkUp b).accountsAfter 0, nofun⟩
  | enable linkUp => exact ⟨[], (quiet_enable linkUp b).accountsAfter 0, nofun⟩
  | disable =>
    obtain ⟨r, accounts⟩ := accounts_disable b h
    exact ⟨r, accounts.after_zero, nofun⟩
  | tick linkUp =>
    obtain ⟨r, accounts⟩ := accounts_tick linkUp b h
    exact ⟨r, accounts, nofun⟩
  | publish id topic payload =>
    refine ⟨_, accounts_publish id topic payload b h, ?_⟩
    rintro c ⟨⟩
    exact ⟨_, rfl, rfl⟩
  | publishRecord record =>
    refine ⟨_, accounts_publishRecord record b h, ?_⟩
    rintro c ⟨⟩
    exact ⟨_, rfl, rfl⟩
  | setEndpoint host port username password =>
    exact ⟨[], (quiet_setEndpoint host port username password b).accountsAfter 0, nofun⟩
  | clearEndpoint =>
    obtain ⟨r, accounts⟩ := accounts_clearEndpoint b h
    exact ⟨r, accounts.after_zero, nofun⟩
  | testConnection => exact ⟨[], accounts_testConnection b, nofun⟩

/-! ## Runs -/

namespace Turn

def call? (t : Turn β σ) : Option Submission := t.op.submission? t.before.topics

def reports (t : Turn β σ) : List (UInt32 × Delivery) := Event.reports t.events

/-- The messages that the operation sent of its own accord. -/
def announced (t : Turn β σ) : List Message :=
  ((Event.sends t.events).take (t.op.announcements t.before.status)).map (·.1)

/-- The sends of messages that were handed in. -/
def deliveries (t : Turn β σ) : List (Message × Bool) :=
  (Event.sends t.events).drop (t.op.announcements t.before.status)

theorem accounts (t : Turn β σ) (h : t.before.reporting = true) :
    t.after.reporting = true ∧
      Balanced t.before.waiting t.call?.toList t.deliveries t.reports t.after.waiting ∧
      (∀ m ∈ t.announced, ∃ retain, m = t.before.presence retain) ∧
      ∀ c, t.call? = some c → ∃ d, t.answer = some d ∧ t.reports = [(c.id, d)] := by
  obtain ⟨r, ⟨s, effect, announced, balance⟩, reported⟩ := accounts_perform t.op t.before h
  obtain ⟨es, told, hs, hr⟩ := effect.told
  have events : t.events = es := by
    simp only [Turn.events, after, told, List.drop_left]
  refine ⟨effect.reporting.trans h, ?_, ?_, ?_⟩
  · rw [deliveries, reports, events, hs, hr]
    exact balance
  · rw [Turn.announced, events, hs]
    intro m hm
    obtain ⟨x, hx, rfl⟩ := List.mem_map.1 hm
    exact announced x hx
  · rw [reports, events, hr]
    exact reported

end Turn

theorem turns_accounts (steps : List (Step β σ)) (b : Broker β σ) (h : b.reporting = true) :
    Balanced b.waiting ((turns steps b).filterMap Turn.call?)
        ((turns steps b).flatMap Turn.deliveries) ((turns steps b).flatMap Turn.reports)
        (run steps b).waiting ∧
      ∀ t ∈ turns steps b, (∀ m ∈ t.announced, ∃ retain, m = t.before.presence retain) ∧
        ∀ c, t.call? = some c → ∃ d, t.answer = some d ∧ t.reports = [(c.id, d)] := by
  induction steps generalizing b with
  | nil => exact ⟨by simpa [turns, run] using Balanced.refl b.waiting, by simp [turns]⟩
  | cons step rest ih =>
    let t : Turn β σ := { op := step.op, before := b.meet step }
    obtain ⟨reporting, balance, single⟩ := t.accounts h
    obtain ⟨balances, others⟩ := ih t.after reporting
    refine ⟨?_, ?_⟩
    · have calls : (turns (step :: rest) b).filterMap Turn.call? =
          t.call?.toList ++ (turns rest t.after).filterMap Turn.call? := by
        cases hc : t.call? <;> simp [turns, t, hc]
      rw [calls]
      exact balance.trans balances
    · intro u hu
      obtain rfl | hu := List.mem_cons.1 hu
      · exact single
      · exact others u hu

/-- No message is lost silently or reported twice. In every run of a manager whose senders are told,
the calls with an id are as many as its reports of success, its reports of loss and its entries in the
outbox together, and every call is reported once at once. What was handed in is what was delivered,
lost or still waits; the client has taken, in the order of the reports of success, the messages of what
was delivered, each as it was handed in. All else that was sent announces the presence. -/
theorem run_accounts (settings : Settings.Broker) (deviceId : String) (watched : Bool) (client : β)
    (board : Board σ) (steps : List (Step β σ)) :
    let b : Broker β σ := { load settings deviceId watched client board with reporting := true }
    let calls := (turns steps b).filterMap Turn.call?
    let reports := (turns steps b).flatMap Turn.reports
    let last := run steps b
    (∀ id, (calls.map (·.id)).count id =
        (told .success reports).count id + (told .dropped reports).count id +
          (last.outbox.entries.map (·.id)).count id) ∧
      (∀ t ∈ turns steps b, ∀ c, t.call? = some c →
        ∃ d, t.answer = some d ∧ t.reports = [(c.id, d)]) ∧
      (∃ delivered lost : List Submission,
        calls.Perm (delivered ++ lost ++ last.outbox.entries.map .ofEntry) ∧
        told .success reports = delivered.map (·.id) ∧
        told .dropped reports = lost.map (·.id) ∧
        (taken ((turns steps b).flatMap Turn.deliveries)).map some =
          delivered.map (·.message?)) ∧
      ∀ t ∈ turns steps b, ∀ m ∈ t.announced, ∃ retain, m = t.before.presence retain := by
  intro b calls reports last
  obtain ⟨balance, each⟩ := turns_accounts steps b rfl
  have start : b.waiting = [] := rfl
  rw [start] at balance
  refine ⟨fun id => ?_, fun t ht => (each t ht).2, ?_, fun t ht => (each t ht).1⟩
  · simpa [waiting, Submission.ofEntry, Function.comp_def] using balance.count_id id
  · obtain ⟨delivered, lost, all, success, dropped, took⟩ := balance
    rw [List.nil_append] at all
    exact ⟨delivered, lost, all, success, dropped, took⟩

end Client

end Telemetry.Broker
