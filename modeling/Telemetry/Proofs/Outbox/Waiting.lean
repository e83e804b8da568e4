import Mathlib.Data.List.Nodup
import Telemetry.Proofs.Outbox

/-!
# How long an entry waits

Each drain tries the three entries at the front, and the others move up by three places. So the place of an entry
tells in which drain it is tried next, whatever is pushed meanwhile. A full outbox is tried through in four drains,
and an entry leaves when it has failed three times, so none is still waiting after twelve.
-/

namespace Telemetry.Outbox

def Op.isDrain : Op → Bool
  | drain _ => true
  | _ => false

/-- The number of drains among the operations. -/
def drains (ops : List Op) : Nat := ops.countP (·.isDrain)

/-- The outbox is not cleared. -/
def Uncleared (ops : List Op) : Prop := ∀ op ∈ ops, op ≠ .clear

/-- Within so many drains an entry is tried, wherever it stands. -/
def patience : Nat := (capacity - 1) / drainBudget + 1

namespace Ledger

/-- An entry stands with its ticket at this place of the outbox. -/
structure Stands (l : Ledger) (t : Nat) (e : Entry) (p : Nat) : Prop where
  ticket : l.tickets[p]? = some t
  entry : l.outbox.entries[p]? = some e

variable {l : Ledger} {held : List (Nat × Entry)} {t p d : Nat} {e : Entry} {answers : List Bool}

theorem run_cons (op : Op) (ops : List Op) (l : Ledger) : l.run (op :: ops) = (l.perform op).run ops := rfl

theorem run_append (x y : List Op) (l : Ledger) : l.run (x ++ y) = (l.run x).run y := List.foldl_append

/-! ## Places -/

/-- No ticket is held twice. -/
theorem Lawful.nodup_tickets (h : Lawful l held) : l.tickets.Nodup := by
  rw [List.nodup_iff_count_le_one]
  intro t
  by_cases mem : t ∈ l.tickets
  · have life := (h.lives t _ (List.getElem?_eq_getElem (h.lt_of_mem mem))).2
    generalize triesOf t l.tries = tries, exitsOf t l.exits = exits, l.tickets.count t = places at life ⊢
    cases life <;> omega
  · simp [List.count_eq_zero.2 mem]

theorem Lawful.length_le (h : Lawful l held) : l.tickets.length ≤ capacity := by
  simpa [h.tickets] using h.size

/-- Whatever stands in the outbox was accepted, and stands there with its ticket. -/
theorem Lawful.exists_stands (h : Lawful l held) (he : l.outbox.entries[p]? = some e) :
    ∃ t, l.Stands t e p ∧
      l.accepted[t]?.map (Entry.failed (triesOf t l.tries).length) = some e := by
  rw [h.entries, List.getElem?_map, Option.map_eq_some_iff] at he
  obtain ⟨x, hx, rfl⟩ := he
  obtain ⟨accepted, found, same⟩ := h.waiting x (List.mem_of_getElem? hx)
  refine ⟨x.1, ⟨?_, ?_⟩, ?_⟩
  · simp [h.tickets, hx]
  · simp [h.entries, hx]
  · simp [found, same]

/-! ## Pushing -/

/-- What is pushed goes behind all that waits. -/
theorem Stands.push (h : l.Stands t e p) (lawful : Lawful l held) (id : UInt32) (topic : String)
    (payload : List UInt8) :
    (l.perform (.push id topic payload)).Stands t e p ∧
      (l.perform (.push id topic payload)).tries = l.tries := by
  obtain ⟨inside, -⟩ := List.getElem?_eq_some_iff.1 h.ticket
  obtain ⟨inside', -⟩ := List.getElem?_eq_some_iff.1 h.entry
  rw [lawful.perform_push]
  split
  · refine ⟨⟨?_, ?_⟩, rfl⟩
    · rw [List.getElem?_append_left inside]
      exact h.ticket
    · rw [List.getElem?_append_left inside']
      exact h.entry
  · exact ⟨h, rfl⟩

/-! ## Draining -/

theorem triesOf_book_of_notMem {tickets : List Nat} (h : t ∉ tickets) (entries : List Entry) (answers : List Bool) :
    triesOf t (book tickets entries answers) = [] := by
  induction tickets generalizing entries answers with
  | nil => rfl
  | cons u tickets ih =>
    cases entries with
    | nil => rfl
    | cons e entries =>
      have other : u ≠ t := (List.ne_of_not_mem_cons h).symm
      simpa [book, triesOf, other] using ih (List.not_mem_of_not_mem_cons h) entries answers.tail

/-- Of the attempts that are booked, one belongs to a ticket: the one at its place. -/
theorem triesOf_book {tickets : List Nat} {entries : List Entry} (nodup : tickets.Nodup) (ht : tickets[p]? = some t)
    (he : entries[p]? = some e) (answers : List Bool) :
    triesOf t (book tickets entries answers) = [(e, answers.getD p true)] := by
  induction tickets generalizing p entries answers with
  | nil => simp at ht
  | cons u tickets ih =>
    obtain ⟨other, nodup⟩ := List.nodup_cons.1 nodup
    cases entries with
    | nil => simp at he
    | cons c entries =>
      cases p with
      | zero =>
        obtain rfl : u = t := by simpa using ht
        obtain rfl : c = e := by simpa using he
        have rest := triesOf_book_of_notMem other entries answers.tail
        cases answers <;> simpa [book, triesOf] using rest
      | succ p =>
        have ht : tickets[p]? = some t := by simpa using ht
        have differs : u ≠ t := fun same => other (same ▸ List.mem_of_getElem? ht)
        have rest := ih nodup ht (by simpa using he) answers.tail
        cases answers <;> simpa [book, triesOf, differs] using rest

/-- An entry beyond the budget of a drain is left alone by it and moves up. -/
theorem Stands.drain_beyond (h : l.Stands t e p) (lawful : Lawful l held) (beyond : drainBudget ≤ p)
    (answers : List Bool) :
    (l.perform (.drain answers)).Stands t e (p - drainBudget) ∧
      triesOf t (l.perform (.drain answers)).tries = triesOf t l.tries := by
  obtain ⟨inside, -⟩ := List.getElem?_eq_some_iff.1 h.ticket
  obtain ⟨inside', -⟩ := List.getElem?_eq_some_iff.1 h.entry
  have back : drainBudget + (p - drainBudget) = p := by omega
  have behind : (l.tickets.drop drainBudget)[p - drainBudget]? = some t := by
    rw [List.getElem?_drop, back]
    exact h.ticket
  have spared : t ∉ l.tickets.take drainBudget := fun ahead =>
    List.disjoint_take_drop lawful.nodup_tickets (Nat.le_refl _) ahead (List.mem_of_getElem? behind)
  refine ⟨⟨?_, ?_⟩, ?_⟩
  · show (l.tickets.drop drainBudget ++ _)[p - drainBudget]? = _
    rw [List.getElem?_append_left (by simp; omega)]
    exact behind
  · show (l.outbox.entries.drop drainBudget ++ _)[p - drainBudget]? = _
    rw [List.getElem?_append_left (by simp; omega), List.getElem?_drop, back]
    exact h.entry
  · show triesOf t (l.tries ++ book _ _ answers) = _
    rw [triesOf_append, triesOf_book_of_notMem spared, List.append_nil]

/-- An entry within the budget is tried, and gets the answer at its place. -/
theorem Stands.drain_due (h : l.Stands t e p) (lawful : Lawful l held) (due : p < drainBudget) (answers : List Bool) :
    triesOf t (l.perform (.drain answers)).tries = triesOf t l.tries ++ [(e, answers.getD p true)] := by
  show triesOf t (l.tries ++ book (l.tickets.take drainBudget) (l.outbox.entries.take drainBudget) answers) = _
  have nodup := lawful.nodup_tickets.sublist (List.take_sublist drainBudget l.tickets)
  have ticket := (List.getElem?_take_of_lt due).trans h.ticket
  have entry := (List.getElem?_take_of_lt due).trans h.entry
  rw [triesOf_append, triesOf_book nodup ticket entry]

/-! ## The next attempt -/

theorem drains_cons (op : Op) (ops : List Op) : drains (op :: ops) = drains ops + if op.isDrain then 1 else 0 :=
  List.countP_cons

/-- As long as the drains have not come to its place, an entry moves up by three places with each of them and is not
tried. -/
theorem Stands.run (h : l.Stands t e p) (lawful : Lawful l held) {ops : List Op} (kept : Uncleared ops)
    (soon : drainBudget * drains ops ≤ p) :
    (l.run ops).Stands t e (p - drainBudget * drains ops) ∧ triesOf t (l.run ops).tries = triesOf t l.tries := by
  induction ops generalizing l held p with
  | nil => exact ⟨h, rfl⟩
  | cons op ops ih =>
    obtain ⟨notClear, later⟩ := List.forall_mem_cons.1 kept
    obtain ⟨held', lawful'⟩ := lawful.perform op
    rw [drains_cons] at soon ⊢
    rw [run_cons]
    cases op with
    | push id topic payload =>
      obtain ⟨stands, untried⟩ := h.push lawful id topic payload
      obtain ⟨stands', untried'⟩ := ih stands lawful' later (by simpa [Op.isDrain] using soon)
      exact ⟨by simpa [Op.isDrain] using stands', untried'.trans (congrArg (triesOf t) untried)⟩
    | drain answers =>
      simp only [Op.isDrain, if_true, Nat.mul_add, Nat.mul_one] at soon ⊢
      obtain ⟨stands, untried⟩ := h.drain_beyond lawful (by omega) answers
      obtain ⟨stands', untried'⟩ := ih stands lawful' later (by omega)
      refine ⟨?_, untried'.trans untried⟩
      rwa [Nat.sub_sub, Nat.add_comm drainBudget] at stands'
    | clear => exact absurd rfl notClear

/-- The drain that comes to the place of an entry tries it. -/
theorem Stands.tried (h : l.Stands t e p) (lawful : Lawful l held) {ops : List Op} (kept : Uncleared ops)
    (next : drains ops = p / drainBudget) (answers : List Bool) :
    triesOf t (l.run (ops ++ [.drain answers])).tries =
      triesOf t l.tries ++ [(e, answers.getD (p % drainBudget) true)] := by
  have place : p - drainBudget * drains ops = p % drainBudget := by
    have := Nat.div_add_mod p drainBudget
    rw [next]
    omega
  obtain ⟨held', lawful'⟩ := lawful.run ops
  obtain ⟨stands, untried⟩ := h.run lawful kept (next ▸ Nat.mul_div_le p drainBudget)
  rw [place] at stands
  rw [run_append, ← untried]
  exact stands.drain_due lawful' (Nat.mod_lt p (by decide)) answers

/-! ## The last attempt -/

/-- So many drains ago at most this entry was accepted, and it has not been cleared since. If it still waits, then it
was tried in each full round of drains, and its next attempt comes before the round is over. -/
structure Served (d t : Nat) (e : Entry) (l : Ledger) : Prop where
  accepted : l.accepted[t]? = some e
  uncleared : .cleared ∉ exitsOf t l.exits
  onTime : ∀ p, l.tickets[p]? = some t → d + p / drainBudget + 1 ≤ patience * ((triesOf t l.tries).length + 1)

/-- An entry is pushed that finds room. -/
theorem Lawful.served (h : Lawful l held) (room : l.outbox.size < capacity) (id : UInt32) (topic : String)
    (payload : List UInt8) :
    Served 0 l.accepted.length { id, topic, payload } (l.perform (.push id topic payload)) := by
  obtain ⟨untried, inside⟩ := h.unused l.accepted.length (Nat.le_refl _)
  obtain ⟨held', lawful'⟩ := h.perform (.push id topic payload)
  have full := lawful'.length_le
  rw [h.outbox_size] at room
  rw [h.perform_push, if_pos room] at full ⊢
  refine ⟨List.getElem?_concat_length, by simp [inside], ?_⟩
  intro p hp
  obtain ⟨below, -⟩ := List.getElem?_eq_some_iff.1 hp
  have place := Nat.lt_of_lt_of_le below full
  rw [untried]
  simp only [patience, drainBudget, capacity, List.length_nil] at place ⊢
  omega

theorem Served.push (h : Served d t e l) (lawful : Lawful l held) (id : UInt32) (topic : String)
    (payload : List UInt8) : Served d t e (l.perform (.push id topic payload)) := by
  obtain ⟨known, -⟩ := List.getElem?_eq_some_iff.1 h.accepted
  rw [lawful.perform_push]
  split
  · refine ⟨?_, h.uncleared, ?_⟩
    · rw [List.getElem?_append_left known]
      exact h.accepted
    · intro p hp
      rw [List.getElem?_append] at hp
      split at hp
      · exact h.onTime p hp
      · -- The new entry has a ticket of its own.
        have new : t = l.accepted.length := List.mem_singleton.1 (List.mem_of_getElem? hp)
        omega
  · exact h

/-- Whoever waits after a drain has waited before it. -/
theorem mem_of_mem_drain (h : t ∈ (l.perform (.drain answers)).tickets) : t ∈ l.tickets := by
  obtain h | h := List.mem_append.1 h
  · exact List.mem_of_mem_drop h
  · obtain ⟨x, hx, rfl⟩ := List.mem_map.1 h
    exact List.mem_of_mem_take (List.of_mem_zip (List.mem_filter.1 hx).1).1

/-- A drain clears nothing. -/
theorem cleared_notMem_leaving (t : Nat) (tickets : List Nat) (outcomes : List Outcome) :
    .cleared ∉ exitsOf t (leaving tickets outcomes) := by
  simp [exitsOf, leaving]

/-- A drain brings an entry nearer to its turn, or tries it, and then one more round of drains is enough. -/
theorem Served.drain (h : Served d t e l) (lawful : Lawful l held) (answers : List Bool) :
    Served (d + 1) t e (l.perform (.drain answers)) := by
  obtain ⟨held', lawful'⟩ := lawful.perform (.drain answers)
  refine ⟨h.accepted, ?_, ?_⟩
  · show .cleared ∉ exitsOf t (l.exits ++ leaving _ _)
    rw [exitsOf_append, List.mem_append, not_or]
    exact ⟨h.uncleared, cleared_notMem_leaving t _ _⟩
  · intro q hq
    obtain ⟨inside', -⟩ := List.getElem?_eq_some_iff.1 hq
    obtain ⟨p, hp⟩ := List.mem_iff_getElem?.1 (mem_of_mem_drain (List.mem_of_getElem? hq))
    obtain ⟨inside, -⟩ := List.getElem?_eq_some_iff.1 hp
    have stands : l.Stands t _ p := ⟨hp, List.getElem?_eq_getElem (lawful.length_tickets ▸ inside)⟩
    have before := h.onTime p hp
    by_cases due : p < drainBudget
    · have place := Nat.lt_of_lt_of_le inside' lawful'.length_le
      rw [stands.drain_due lawful due, List.length_append, List.length_singleton]
      simp only [patience, drainBudget, capacity] at before due place ⊢
      omega
    · obtain ⟨moved, untried⟩ := stands.drain_beyond lawful (Nat.le_of_not_lt due) answers
      have same : q = p - drainBudget :=
        (List.getElem?_inj inside' lawful'.nodup_tickets).1 (hq.trans moved.ticket.symm)
      rw [untried, same]
      simp only [patience, drainBudget, capacity] at before due ⊢
      omega

theorem Served.run (h : Served d t e l) (lawful : Lawful l held) {ops : List Op} (kept : Uncleared ops) :
    Served (d + drains ops) t e (l.run ops) := by
  induction ops generalizing l held d with
  | nil => exact h
  | cons op ops ih =>
    obtain ⟨notClear, later⟩ := List.forall_mem_cons.1 kept
    obtain ⟨held', lawful'⟩ := lawful.perform op
    rw [drains_cons, run_cons]
    cases op with
    | push id topic payload => exact ih (h.push lawful id topic payload) lawful' later
    | drain answers =>
      have rest := ih (h.drain lawful answers) lawful' later
      rwa [Nat.add_assoc, Nat.add_comm 1] at rest
    | clear => exact absurd rfl notClear

/-- An entry can be tried three times, so it does not wait longer than three rounds. -/
theorem Served.left (h : Served d t e l) (lawful : Lawful l held) (late : patience * maxRetries ≤ d) :
    t ∉ l.tickets ∧
      (exitsOf t l.exits = [.settled (.delivered e.id)] ∨ exitsOf t l.exits = [.settled (.dropped e.id)]) := by
  have life := (lawful.lives t e h.accepted).2
  have gone : t ∉ l.tickets := by
    intro waits
    obtain ⟨p, hp⟩ := List.mem_iff_getElem?.1 waits
    have onTime := h.onTime p hp
    have place : 0 < l.tickets.count t := List.count_pos_iff.2 waits
    generalize triesOf t l.tries = tries, exitsOf t l.exits = exits, l.tickets.count t = places at life place onTime
    cases life with
    | waits few =>
      rw [length_failures] at onTime
      simp only [patience, drainBudget, capacity, maxRetries] at late few onTime
      omega
    | delivered | dropped | cleared => omega
  refine ⟨gone, ?_⟩
  have uncleared := h.uncleared
  rw [List.count_eq_zero.2 gone] at life
  generalize triesOf t l.tries = tries, exitsOf t l.exits = exits at life uncleared ⊢
  cases life with
  | delivered => exact .inl rfl
  | dropped => exact .inr rfl
  | cleared => exact absurd (List.mem_singleton.2 rfl) uncleared

/-- In every state that is reached, the entry at place `p` is tried in the drain number `p / 3 + 1` from then on and in
no earlier one, whatever is pushed meanwhile and however attempts are answered; each entry that is accepted has been
delivered or dropped after twelve drains. -/
theorem tried_in_turn (past : List Op) :
    let l := run past {}
    (∀ p e, l.outbox.entries[p]? = some e → ∃ t, l.tickets[p]? = some t ∧
      l.accepted[t]?.map (Entry.failed (triesOf t l.tries).length) = some e ∧
      ∀ later, Uncleared later →
        (drains later ≤ p / 3 → triesOf t (l.run later).tries = triesOf t l.tries) ∧
        (drains later = p / 3 → ∀ answers, triesOf t (l.run (later ++ [.drain answers])).tries =
          triesOf t l.tries ++ [(e, answers.getD (p % 3) true)])) ∧
    ∀ id topic payload q, l.outbox.push { id, topic, payload } = .ok q →
      ∀ later, Uncleared later → 12 ≤ drains later →
        let l' := l.run (.push id topic payload :: later)
        l.accepted.length ∉ l'.tickets ∧
          (exitsOf l.accepted.length l'.exits = [.settled (.delivered id)] ∨
            exitsOf l.accepted.length l'.exits = [.settled (.dropped id)]) := by
  intro l
  obtain ⟨held, lawful⟩ : ∃ held, Lawful l held := lawful_empty.run past
  constructor
  · intro p e he
    obtain ⟨t, stands, origin⟩ := lawful.exists_stands he
    refine ⟨t, stands.ticket, origin, ?_⟩
    intro later kept
    constructor
    · intro soon
      refine (stands.run lawful kept ?_).2
      exact Nat.le_trans (Nat.mul_le_mul_left drainBudget soon) (Nat.mul_div_le p drainBudget)
    · intro next answers
      exact stands.tried lawful kept next answers
  · intro id topic payload q pushed later kept late
    obtain ⟨room, -⟩ := push_eq_ok_iff.1 pushed
    obtain ⟨held', lawful'⟩ := lawful.perform (.push id topic payload)
    obtain ⟨held'', lawful''⟩ := lawful'.run later
    have served := (lawful.served room id topic payload).run lawful' kept
    exact served.left lawful'' (by simpa [patience, capacity, drainBudget, maxRetries] using late)

namespace Sample

def entry (id : UInt32) : Entry := { id, topic := "records/unit/items", payload := [123, 125] }

def push (id : UInt32) : Op := .push id "records/unit/items" [123, 125]

/-- Nine entries, one place short of a full outbox. -/
def nine : List Op := [0, 1, 2, 3, 4, 5, 6, 7, 8].map push

/-- Drains that send nothing, each with a push behind it. -/
def refused (n : Nat) : List Op := (List.replicate n [.drain [false, false, false], push 99]).flatten

theorem uncleared_refused (n : Nat) : Uncleared (refused n) := by
  intro op mem
  obtain ⟨ops, hops, mem⟩ := List.mem_flatten.1 mem
  obtain rfl := List.eq_of_mem_replicate hops
  rintro rfl
  simp [push] at mem

/-- The tenth entry comes last. The fourth drain tries it, and after twelve it has left. -/
theorem tenth_in_turn :
    let l := run (nine ++ [push 9]) {}
    let l' := (run nine {}).run (push 9 :: refused 12)
    l.outbox.entries[9]? = some (entry 9) ∧ Uncleared (refused 3) ∧ drains (refused 3) = 9 / 3 ∧
      triesOf 9 (l.run (refused 3)).tries = [] ∧
      triesOf 9 (l.run (refused 3 ++ [.drain [false, false, false]])).tries = [(entry 9, false)] ∧
      (∃ q, (run nine {}).outbox.push (entry 9) = .ok q) ∧ Uncleared (refused 12) ∧ 12 ≤ drains (refused 12) ∧
      9 ∉ l'.tickets ∧
      (exitsOf 9 l'.exits = [.settled (.delivered 9)] ∨ exitsOf 9 l'.exits = [.settled (.dropped 9)]) := by
  intro l l'
  have place : l.outbox.entries[9]? = some (entry 9) := by decide +kernel
  have untried : triesOf 9 (run (nine ++ [push 9]) {}).tries = [] := by decide +kernel
  have next : drains (refused 3) = 9 / 3 := by decide
  obtain ⟨t, ticket, -, turn⟩ := (tried_in_turn (nine ++ [push 9])).1 9 (entry 9) place
  obtain rfl : t = 9 := Option.some.inj (ticket.symm.trans (by decide +kernel))
  obtain ⟨before, tried⟩ := turn (refused 3) (uncleared_refused 3)
  have first := tried next [false, false, false]
  rw [untried] at before first
  have late : 12 ≤ drains (refused 12) := by decide
  have ninth : (run nine {}).accepted.length = 9 := by decide +kernel
  obtain ⟨q, pushed⟩ : ∃ q, (run nine {}).outbox.push (entry 9) = .ok q :=
    ⟨_, push_eq_ok_iff.2 ⟨by decide +kernel, rfl⟩⟩
  have left := (tried_in_turn nine).2 9 "records/unit/items" [123, 125] q pushed (refused 12)
    (uncleared_refused 12) late
  rw [ninth] at left
  exact ⟨place, uncleared_refused 3, next, before (Nat.le_of_eq next), first, ⟨q, pushed⟩, uncleared_refused 12, late,
    left⟩

end Sample

end Ledger
end Telemetry.Outbox
